import UpfEdge.Encapsulation
import UpfEdge.Pfcp.Wire
import UpfEdge.Recovery

/-!
# The TEID of uplink frames

The UPF allocates a TEID for every session and returns it in the Created PDRs; the gNB is to send
the session's uplink traffic under it.  The uplink program copies the GTP-U header and never looks
at the TEID: it finds the session by the inner source address alone.

So a frame is let through under any TEID as soon as it is let through under one
(`parseUplink_tunnelled`), and the TEIDs of redirected frames are the allocated ones exactly when
the rules drop all uplink traffic (`authenticated_iff`).
-/

namespace UpfEdge

open Lib Pfcp Server Xdp

/-- The TEID in the GTP-U header of an N3 frame. -/
def gtpuTeid (f : Bytes) : Option UInt32 :=
  (ptrAt f (ethHdrLen + ipHdrLen + udpHdrLen + 4) 4).map u32OfBe

/-- Every N3 frame that is redirected carries the TEID that the UPF has allocated to the session of
its inner source address. -/
def Lifetime.Authenticated (host : Host) (l : Lifetime) : Prop :=
  ∀ x f p session, uplinkMatch host.endian f l.audit.maps = some (p, session) →
    (tryN3Uplink host.endian x f l.audit.maps).1.redirected = true →
    ∃ alloc, l.teids.lookup session.seid = some alloc ∧ gtpuTeid f = some alloc.teid

/-- A five-tuple that the uplink program can read off a frame: other protocols than TCP and UDP have
no ports. -/
def Portable (t : FiveTuple) : Prop :=
  t.proto ≠ 6 → t.proto ≠ 17 → t.srcPort = 0 ∧ t.dstPort = 0

/-- The rules drop every uplink packet of every UE that has a SESSION_MAP row. -/
def ClosedUplink (m : Maps) : Prop :=
  ∀ k session, m.sessionMap.lookup k = some session → ∀ t : FiveTuple, Portable t →
    t.srcIp = k.ueIp → shouldDrop (selected m session ifaceAccess t) = true

/-! ### Frames under any TEID -/

/-- A frame with a packet of the five-tuple `t`, in a tunnel to the UPF under a TEID. -/
def tunnelled (e : Endian) (teid : UInt32) (t : FiveTuple) : Bytes :=
  [0, 0, 0, 0, 0, 0, 0, 0, 0, 0, 0, 0, 0x08, 0x00] ++
    [0x45, 0, 0, 0, 0, 0, 0, 0, 64, 17, 0, 0, 0, 0, 0, 0, 0, 0, 0, 0] ++
    [0x08, 0x68, 0x08, 0x68, 0, 0, 0, 0] ++ ([0x30, gtpuGpdu, 0, 0] ++ u32ToBe teid) ++
    ([0x45, 0, 0, 0, 0, 0, 0, 0, 64, t.proto, 0, 0] ++ e.store32 t.srcIp ++ e.store32 t.dstIp ++
      e.store16 t.srcPort ++ e.store16 t.dstPort)

theorem exists_two {bs : Bytes} (h : bs.length = 2) : ∃ a b, bs = [a, b] :=
  List.length_eq_two.mp h

theorem exists_four {bs : Bytes} (h : bs.length = 4) : ∃ a b c d, bs = [a, b, c, d] := by
  match bs, h with
  | [a, b, c, d], _ => exact ⟨a, b, c, d, rfl⟩

section Tunnelled

variable (e : Endian) (teid : UInt32) (t : FiveTuple)

theorem length_tunnelled : (tunnelled e teid t).length = 74 := by
  simp [tunnelled, length_store32, length_store16, u32ToBe, length_bytesBe]

theorem gtpuTeid_tunnelled : gtpuTeid (tunnelled e teid t) = some teid := by
  have hread : ptrAt (tunnelled e teid t) (ethHdrLen + ipHdrLen + udpHdrLen + 4) 4 =
      some (u32ToBe teid) := by
    obtain ⟨a, b, c, d, hbytes⟩ := exists_four (length_bytesBe 4 teid.toNat)
    rw [tunnelled, u32ToBe, hbytes]
    simp [ptrAt, ethHdrLen, ipHdrLen, udpHdrLen]
  rw [gtpuTeid, hread, Option.map_some, u32OfBe_u32ToBe]

/-- The program reads the five-tuple off the frame, whatever the TEID. -/
theorem parseUplink_tunnelled (h : Portable t) :
    parseUplink e (tunnelled e teid t) = some ⟨50, t⟩ := by
  obtain ⟨i₀, i₁, i₂, i₃, hteid⟩ := exists_four (length_bytesBe 4 teid.toNat)
  obtain ⟨s₀, s₁, s₂, s₃, hsrc⟩ := exists_four (length_store32 e t.srcIp)
  obtain ⟨d₀, d₁, d₂, d₃, hdst⟩ := exists_four (length_store32 e t.dstIp)
  obtain ⟨p₀, p₁, hsport⟩ := exists_two (length_store16 e t.srcPort)
  obtain ⟨q₀, q₁, hdport⟩ := exists_two (length_store16 e t.dstPort)
  have hlen := length_tunnelled e teid t
  have hetherType : readBe16 e (tunnelled e teid t) 12 = some 0x0800 := by
    have hword : e.toBe16 (e.load16 [0x08, 0x00]) = 0x0800 := by cases e <;> decide
    rw [← hword, readBe16, readU16, ptrAt, if_neg (by omega)]
    simp [tunnelled]
  have hprotocol : readU8 (tunnelled e teid t) (ethHdrLen + 9) = some 17 := by
    rw [readU8, ptrAt, if_neg (by rw [hlen]; decide)]
    simp [tunnelled, ethHdrLen]
  have hport : readBe16 e (tunnelled e teid t) (ethHdrLen + ipHdrLen + 2) = some gtpUdpPort := by
    have hword : e.toBe16 (e.load16 [0x08, 0x68]) = gtpUdpPort := by cases e <;> decide
    rw [← hword, readBe16, readU16, ptrAt, if_neg (by rw [hlen]; decide)]
    simp [tunnelled, ethHdrLen, ipHdrLen]
  have hgtpu : ptrAt (tunnelled e teid t) (ethHdrLen + ipHdrLen + udpHdrLen) gtpuHdrLen =
      some [0x30, gtpuGpdu, 0, 0, i₀, i₁, i₂, i₃] := by
    rw [ptrAt, if_neg (by rw [hlen]; decide)]
    simp [tunnelled, u32ToBe, hteid, ethHdrLen, ipHdrLen, udpHdrLen, gtpuHdrLen]
  have hue : readU32 e (tunnelled e teid t) (50 + 12) = some t.srcIp := by
    rw [← load32_store32 e t.srcIp, readU32, ptrAt, if_neg (by omega), hsrc]
    simp [tunnelled, u32ToBe, hteid, hsrc]
  have hproto : readU8 (tunnelled e teid t) (50 + 9) = some t.proto := by
    rw [readU8, ptrAt, if_neg (by omega)]
    simp [tunnelled, u32ToBe, hteid]
  have hdip : readU32 e (tunnelled e teid t) (50 + 16) = some t.dstIp := by
    rw [← load32_store32 e t.dstIp, readU32, ptrAt, if_neg (by omega), hdst]
    simp [tunnelled, u32ToBe, hteid, hsrc, hdst]
  have hsp : readU16 e (tunnelled e teid t) (50 + 20) = some t.srcPort := by
    rw [← load16_store16 e t.srcPort, readU16, ptrAt, if_neg (by omega), hsport]
    simp [tunnelled, u32ToBe, hteid, hsrc, hdst, hsport]
  have hdp : readU16 e (tunnelled e teid t) (50 + 22) = some t.dstPort := by
    rw [← load16_store16 e t.dstPort, readU16, ptrAt, if_neg (by omega), hdport]
    simp [tunnelled, u32ToBe, hteid, hsrc, hdst, hsport, hdport]
  have hports : innerPorts e (tunnelled e teid t) 50 t.proto = some (t.srcPort, t.dstPort) := by
    unfold innerPorts
    split_ifs with hp
    · rw [hsp, hdp]
      rfl
    · obtain ⟨hnot6, hnot17⟩ := not_or.mp hp
      obtain ⟨hs, hd⟩ := h hnot6 hnot17
      rw [hs, hd]
  have htotal : ethHdrLen + ipHdrLen + udpHdrLen + gtpuHdrLen = 50 := rfl
  have hflags : (0x30 : UInt8) &&& gtpuFlagE = 0 := by decide
  have hflags' : (0x30 : UInt8) &&& (gtpuFlagS ||| gtpuFlagPn) = 0 := by decide
  unfold parseUplink
  simp [hetherType, hprotocol, hport, hgtpu, hflags, hflags', htotal, hue, hproto, hdip, hports]

end Tunnelled

/-! ### Which frames get through -/

section Uplink

variable {e : Endian} {x : XdpEnv} {f : Bytes} {m : Maps} {p : UplinkPacket} {session : SessionInfo}

/-- What a frame is read as has no ports unless its protocol has. -/
theorem portable_of_parseUplink (h : parseUplink e f = some p) : Portable p.tuple := by
  intro hnot6 hnot17
  obtain ⟨-, -, -, hports⟩ := parseUplink_reads h
  rw [innerPorts, if_neg (not_or.mpr ⟨hnot6, hnot17⟩)] at hports
  obtain ⟨hs, hd⟩ := Prod.mk.inj (Option.some.inj hports)
  exact ⟨hs.symm, hd.symm⟩

/-- A frame of a session is redirected when no rule drops it and its head can be moved. -/
theorem uplink_redirected (h : uplinkMatch e f m = some (p, session)) :
    (tryN3Uplink e x f m).1.redirected = true ↔
      shouldDrop (selected m session ifaceAccess p.tuple) = false ∧
        canStrip x f p.outerTotal = true := by
  obtain ⟨hp, -⟩ := uplinkMatch_row h
  rw [tryN3Uplink_eq, h]
  simp only [forwardUplink]
  cases hdrop : shouldDrop (selected m session ifaceAccess p.tuple) with
  | true => simp [XdpResult.redirected]
  | false => simp [decapsulate_redirected hp]

open SmfSim in
/-- Where a packet is not dropped, it is redirected under every TEID. -/
theorem tunnelled_redirected {k : SessionKey} (hrow : m.sessionMap.lookup k = some session)
    {t : FiveTuple} (hport : Portable t) (hsrc : t.srcIp = k.ueIp)
    (hdrop : shouldDrop (selected m session ifaceAccess t) = false) (teid : UInt32) :
    uplinkMatch e (tunnelled e teid t) m = some (⟨50, t⟩, session) ∧
      (tryN3Uplink e machine (tunnelled e teid t) m).1.redirected = true := by
  have hm : uplinkMatch e (tunnelled e teid t) m = some (⟨50, t⟩, session) := by
    have hkey : (⟨t.srcIp⟩ : SessionKey) = k := by rw [hsrc]
    rw [uplinkMatch, parseUplink_tunnelled e teid t hport, Option.bind_some, hkey, hrow]
    rfl
  refine ⟨hm, (uplink_redirected hm).mpr ⟨hdrop, ?_⟩⟩
  have hlen := length_tunnelled e teid t
  simp [canStrip, machine, ethHdrLen, hlen]

end Uplink

/-- In any state at all. -/
theorem authenticated_iff_closed (host : Host) (l : Lifetime) :
    l.Authenticated host ↔ ClosedUplink l.audit.maps := by
  constructor
  · intro h k session hrow t hport hsrc
    by_contra hdrop
    rw [Bool.not_eq_true] at hdrop
    -- two frames that differ in the TEID only
    obtain ⟨hm, hred⟩ := tunnelled_redirected (e := host.endian) hrow hport hsrc hdrop 0
    obtain ⟨hm', hred'⟩ := tunnelled_redirected (e := host.endian) hrow hport hsrc hdrop 1
    obtain ⟨alloc, halloc, hteid⟩ := h _ _ _ _ hm hred
    obtain ⟨alloc', halloc', hteid'⟩ := h _ _ _ _ hm' hred'
    obtain rfl : alloc = alloc' := Option.some.inj (halloc.symm.trans halloc')
    rw [gtpuTeid_tunnelled] at hteid hteid'
    exact absurd (hteid.trans hteid'.symm) (by decide)
  · intro h x f p session hm hred
    obtain ⟨hp, hrow⟩ := uplinkMatch_row hm
    have hdrop := h _ session hrow p.tuple (portable_of_parseUplink hp) rfl
    rw [((uplink_redirected hm).mp hred).1] at hdrop
    cases hdrop

/-- **Uplink TEIDs.**  In every state that a run reaches, the frames that are redirected to N6 carry
the TEIDs allocated to their sessions exactly when the rules let no frame through. -/
theorem authenticated_iff (host : Host) (b : Boot) (sessions : List (UInt64 × SessionData))
    (evs : List Event) :
    (run (Lifetime.step host) (Lifetime.start b sessions) evs).Authenticated host ↔
      ClosedUplink (run (Lifetime.step host) (Lifetime.start b sessions) evs).audit.maps :=
  authenticated_iff_closed host _

section Sim

open SmfSim

/-- A segment from the simulator's UE to the server, under the TEID 0xBAD. -/
def foreignTeid : Bytes :=
  tunnelled .little 0xBAD
    { proto := 6, srcIp := Endian.little.load32 ue1.octets
      dstIp := Endian.little.load32 server.octets, srcPort := 0x3930, dstPort := 0x5000 }

/-- The TEID of the simulator's session is 1000, and the segment gets through. -/
theorem not_authenticated_foreignTeid :
    ¬ (run (Lifetime.step host) (Lifetime.start boot [])
      [setup smfA 1, establish smfA 1 ue1]).Authenticated host := by
  intro h
  set l := run (Lifetime.step host) (Lifetime.start boot []) [setup smfA 1, establish smfA 1 ue1]
  have hmatch : (uplinkMatch host.endian foreignTeid l.audit.maps).map (·.2.seid) = some 1 := by
    decide +kernel
  have hteid : l.teids.lookup 1 = some (.issued 1000) := by decide +kernel
  obtain ⟨⟨p, session⟩, hm, hseid⟩ := Option.map_eq_some_iff.mp hmatch
  obtain ⟨alloc, halloc, hframe⟩ := h machine foreignTeid p session hm (by decide +kernel)
  rw [show session.seid = 1 from hseid, hteid] at halloc
  rw [← Option.some.inj halloc] at hframe
  exact absurd hframe (by decide +kernel)

end Sim

end UpfEdge
