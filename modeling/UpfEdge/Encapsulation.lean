import UpfEdge.Selection

/-!
# Into the tunnel and out again

The downlink program puts 58 bytes of headers in place of the 14 bytes of Ethernet header in front
of a packet; the uplink program reads the length of what stands in front of an inner packet off the
flags of the GTP-U header, strips that much and puts an Ethernet header there.  What the first has
written the second takes off to the byte (`decapsulate_downlink`).

The programs are built for a little-endian target (`bpfel`), and the two stores of an EtherType
count on it.
-/

namespace UpfEdge

open Lib Pfcp Server Xdp

namespace Xdp

/-! ### The outer headers -/

theorem IpHdr.length_bytes (e : Endian) (h : IpHdr) : (h.bytes e).length = ipHdrLen := by
  simp [bytes, length_store16, length_store32, ipHdrLen]

/-- The tenth byte of an IP header is the protocol. -/
theorem IpHdr.bytes_protocol (e : Endian) (h : IpHdr) :
    ∃ pre post, pre.length = 9 ∧ h.bytes e = pre ++ ([h.protocol] ++ post) :=
  ⟨[h.versionIhl, h.tos] ++ e.store16 h.totLen ++ e.store16 h.id ++ e.store16 h.fragOff ++ [h.ttl],
    e.store16 h.check ++ e.store32 h.saddr ++ e.store32 h.daddr, by simp [length_store16],
    by simp [bytes]⟩

/-- The four headers and the extension that stand in front of an encapsulated packet. -/
structure OuterHeaders where
  eth : Bytes
  ip : Bytes
  udp : Bytes
  gtpu : Bytes
  eth_length : eth.length = ethHdrLen
  ip_length : ip.length = ipHdrLen
  udp_length : udp.length = udpHdrLen
  gtpu_length : gtpu.length = gtpuHdrLen

namespace OuterHeaders

def bytes (h : OuterHeaders) : Bytes := h.eth ++ h.ip ++ h.udp ++ h.gtpu ++ extBytes

theorem length_bytes (h : OuterHeaders) : h.bytes.length = 58 := by
  simp only [bytes, List.length_append, h.eth_length, h.ip_length, h.udp_length, h.gtpu_length]
  rfl

/-- What the uplink program checks of the headers. -/
structure Recognised (e : Endian) (h : OuterHeaders) : Prop where
  etherType : ∃ pre, pre.length = 12 ∧ h.eth = pre ++ e.store16 0x0008
  protocol : ∃ pre post, pre.length = 9 ∧ h.ip = pre ++ ([17] ++ post)
  port : ∃ pre post, pre.length = 2 ∧ h.udp = pre ++ (e.store16 (e.toBe16 gtpUdpPort) ++ post)
  message : ∃ post, h.gtpu = 0x34 :: gtpuGpdu :: post

/-- The headers that the downlink program writes. -/
theorem of_outerHeaders (e : Endian) {gnbMac ethSrc : Bytes} (hmac : gnbMac.length = 6)
    (hsrc : ethSrc.length = 6) (upfIp gnbIp teid : UInt32) (totLen : UInt16) :
    ∃ h : OuterHeaders, h.Recognised e ∧
      outerHeaders e gnbMac ethSrc upfIp gnbIp teid totLen = h.bytes := by
  unfold outerHeaders
  simp only
  refine ⟨⟨_, _, _, _, ?_, IpHdr.length_bytes .., ?_, ?_⟩, ⟨?_, IpHdr.bytes_protocol .., ?_, ?_⟩,
    rfl⟩
  · simp [hmac, hsrc, length_store16, ethHdrLen]
  · simp [length_store16, udpHdrLen]
  · simp [length_store16, length_store32, gtpuHdrLen]
  · exact ⟨gnbMac ++ ethSrc, by simp [hmac, hsrc], rfl⟩
  · exact ⟨_, _, length_store16 .., (List.append_assoc ..).trans (List.append_assoc ..)⟩
  · exact ⟨_, rfl⟩

/-- The uplink program recognises the headers, and takes them for 58 bytes. -/
theorem Recognised.parseUplink {h : OuterHeaders} (hr : h.Recognised .little) {pkt : Bytes}
    (hpkt : 24 ≤ pkt.length) :
    ∃ p, parseUplink .little (h.bytes ++ pkt) = some p ∧ p.outerTotal = 58 := by
  obtain ⟨ethPre, hethPre, heth⟩ := hr.etherType
  obtain ⟨ipPre, ipPost, hipPre, hip⟩ := hr.protocol
  obtain ⟨udpPre, udpPost, hudpPre, hudp⟩ := hr.port
  obtain ⟨gtpuPost, hgtpu⟩ := hr.message
  have hlen : (h.bytes ++ pkt).length = 58 + pkt.length := by
    rw [List.length_append, h.length_bytes]
  have hetherType : readBe16 .little (h.bytes ++ pkt) 12 = some 0x0800 := by
    have hread := readBe16_append_mid (e := .little) (x := 0x0008) ethPre
      (h.ip ++ h.udp ++ h.gtpu ++ extBytes ++ pkt) hethPre
    rw [show Endian.little.toBe16 0x0008 = 0x0800 by decide] at hread
    simpa only [bytes, heth, List.append_assoc] using hread
  have hprotocol : readU8 (h.bytes ++ pkt) (ethHdrLen + 9) = some 17 := by
    have hread := readU8_append_mid (b := 17) (n := ethHdrLen + 9) (h.eth ++ ipPre)
      (ipPost ++ h.udp ++ h.gtpu ++ extBytes ++ pkt)
      (by rw [List.length_append, h.eth_length, hipPre])
    simpa only [bytes, hip, List.append_assoc] using hread
  have hport : readBe16 .little (h.bytes ++ pkt) (ethHdrLen + ipHdrLen + 2) = some gtpUdpPort := by
    have hread := readBe16_append_mid (e := .little) (x := Endian.little.toBe16 gtpUdpPort)
      (n := ethHdrLen + ipHdrLen + 2) (h.eth ++ h.ip ++ udpPre)
      (udpPost ++ h.gtpu ++ extBytes ++ pkt)
      (by simp only [List.length_append, h.eth_length, h.ip_length, hudpPre])
    rw [show Endian.little.toBe16 (Endian.little.toBe16 gtpUdpPort) = gtpUdpPort by decide] at hread
    simpa only [bytes, hudp, List.append_assoc] using hread
  have hmessage : ptrAt (h.bytes ++ pkt) (ethHdrLen + ipHdrLen + udpHdrLen) gtpuHdrLen =
      some h.gtpu := by
    have hread := ptrAt_append_mid (n := ethHdrLen + ipHdrLen + udpHdrLen)
      (h.eth ++ h.ip ++ h.udp) h.gtpu (extBytes ++ pkt)
      (by simp only [List.length_append, h.eth_length, h.ip_length, h.udp_length]) h.gtpu_length
    simpa only [bytes, List.append_assoc] using hread
  -- what it reads behind the headers is there, ports included
  obtain ⟨ueIp, hue⟩ : ∃ v, readU32 .little (h.bytes ++ pkt) (58 + 12) = some v :=
    readU32_of_le (by omega)
  obtain ⟨proto, hproto⟩ : ∃ v, readU8 (h.bytes ++ pkt) (58 + 9) = some v :=
    readU8_of_le (by omega)
  obtain ⟨dstIp, hdst⟩ : ∃ v, readU32 .little (h.bytes ++ pkt) (58 + 16) = some v :=
    readU32_of_le (by omega)
  obtain ⟨ports, hports⟩ : ∃ ports, innerPorts .little (h.bytes ++ pkt) 58 proto = some ports :=
    innerPorts_of_le (by omega) proto
  refine ⟨⟨58, proto, ueIp, dstIp, ports.1, ports.2⟩, ?_, rfl⟩
  have htotal : ethHdrLen + ipHdrLen + udpHdrLen + gtpuHdrLen + gtpuExtHdrLen = 58 := rfl
  have hext : (0x34 : UInt8) &&& gtpuFlagE ≠ 0 := by decide
  unfold Xdp.parseUplink
  simp [hetherType, hprotocol, hport, hmessage, hgtpu, hext, htotal, hue, hproto, hdst, hports]

end OuterHeaders

/-! ### The programs -/

section Programs

variable {e : Endian} {x : XdpEnv} {f : Bytes} {m : Maps}

/-- A frame that the downlink program redirects: the outer headers for the tunnel of its session
and the length in its IP header, then the packet as it came. -/
theorem downlink_frame (h : (tryN6Downlink e x f m).1.redirected = true) :
    ∃ t session tunnel totLen, downlinkMatch e f m = some (t, session) ∧
      downlinkTunnel m session = some tunnel ∧ readBe16 e f (ethHdrLen + 2) = some totLen ∧
      (tryN6Downlink e x f m).1.frame =
        outerHeaders e (m.gwMac.get 1).addr (f.take 6) session.upfIp tunnel.1 tunnel.2 totLen ++
          f.drop ethHdrLen := by
  rw [tryN6Downlink_eq] at h ⊢
  cases hm : downlinkMatch e f m with
  | none =>
    rw [hm] at h
    cases h
  | some ts =>
    obtain ⟨t, session⟩ := ts
    obtain ⟨ht, -⟩ := downlinkMatch_row hm
    have htunnel : downlinkTunnel (statsTx x.cpu ⟨t.dstIp⟩ (pktLen f) m) session =
      downlinkTunnel m session := rfl
    rw [hm] at h
    simp only [forwardDownlink, htunnel] at h ⊢
    split_ifs at h ⊢
    · cases h
    · cases hto : downlinkTunnel m session with
      | none =>
        rw [hto] at h
        cases h
      | some tunnel =>
        simp only [hto] at h ⊢
        rw [encapsulate_redirected ht] at h
        have henc := encapsulate_eq ht x (statsTx x.cpu ⟨t.dstIp⟩ (pktLen f) m) session tunnel
        rw [if_pos h] at henc
        obtain ⟨totLen, htot, henc⟩ := henc
        exact ⟨t, session, tunnel, totLen, rfl, hto, htot, congrArg XdpResult.frame henc⟩

/-- Such a frame is long enough to have been parsed. -/
theorem length_of_downlinkMatch {t : FiveTuple} {session : SessionInfo}
    (h : downlinkMatch e f m = some (t, session)) : 38 ≤ f.length :=
  parseDownlink_length (downlinkMatch_row h).1

theorem downlink_layout (h : (tryN6Downlink e x f m).1.redirected = true) :
    38 ≤ f.length ∧ ∃ hdr : OuterHeaders, hdr.Recognised e ∧
      (tryN6Downlink e x f m).1.frame = hdr.bytes ++ f.drop ethHdrLen := by
  obtain ⟨t, session, tunnel, totLen, hm, -, -, hframe⟩ := downlink_frame h
  have hlen := length_of_downlinkMatch hm
  have hsrc : (f.take 6).length = 6 := by
    rw [List.length_take]
    omega
  obtain ⟨hdr, hrec, hbytes⟩ := OuterHeaders.of_outerHeaders e (m.gwMac.get 1).size hsrc
    session.upfIp tunnel.1 tunnel.2 totLen
  exact ⟨hlen, hdr, hrec, by rw [hframe, hbytes]⟩

/-- Stripping what stands in front of a packet and writing an Ethernet header there leaves the
packet. -/
theorem decapsulate_append {hdr pkt : Bytes} {n : ℕ} (hlen : hdr.length = n) (hn : 12 ≤ n)
    (hstrip : canStrip x (hdr ++ pkt) n = true) :
    ∃ eth, eth.length = ethHdrLen ∧
      decapsulate e x m n (hdr ++ pkt) = ⟨.redirect (m.ifIndex.get 1), eth ++ pkt⟩ := by
  obtain ⟨ethSrc, hsrc⟩ : ∃ bs, ptrAt (hdr ++ pkt) 6 6 = some bs :=
    ptrAt_of_le (by rw [List.length_append]; omega)
  obtain ⟨grown, hgrown⟩ := Option.isSome_iff_exists.mp hstrip
  obtain ⟨stripped, hstripped, hgrow⟩ := Option.bind_eq_some_iff.mp hgrown
  obtain rfl := x.adjustHead_strip hstripped
  obtain ⟨room, hroom, rfl⟩ := x.adjustHead_grow hgrow
  have hpkt : (hdr ++ pkt).drop n = pkt := by rw [← hlen, List.drop_left]
  have hrest : (room ++ pkt).drop ethHdrLen = pkt := by rw [← hroom, List.drop_left]
  have hroomy : ¬ (room ++ pkt).length < ethHdrLen := by
    rw [List.length_append, hroom]
    omega
  rw [hpkt] at hstripped hgrow
  refine ⟨(m.gwMac.get 0).addr ++ ethSrc ++ e.store16 0x0008, ?_, ?_⟩
  · obtain ⟨-, rfl⟩ := ptrAt_eq_some hsrc
    rw [List.length_append, List.length_append, (m.gwMac.get 0).size, length_store16,
      length_slice (by rw [List.length_append]; omega)]
    rfl
  · unfold decapsulate
    simp only [hsrc, hstripped, hgrow, if_neg hroomy, hrest]
    rfl

end Programs

end Xdp

/-- **Encapsulation is undone by decapsulation.**  A frame that the downlink program redirects is
58 bytes of headers and the packet behind the Ethernet header it came with; the uplink program
recognises the headers and their length, and what it makes of the frame is a new Ethernet header and
that packet. -/
theorem decapsulate_downlink (x : XdpEnv) (f : Bytes) (m : Maps)
    (h : (tryN6Downlink .little x f m).1.redirected = true) :
    ∃ hdr : OuterHeaders,
      (tryN6Downlink .little x f m).1.frame = hdr.bytes ++ f.drop ethHdrLen ∧
      (∃ p, parseUplink .little (tryN6Downlink .little x f m).1.frame = some p ∧
        p.outerTotal = 58) ∧
      ∀ (x' : XdpEnv) (m' : Maps), canStrip x' (tryN6Downlink .little x f m).1.frame 58 = true →
        ∃ eth, eth.length = ethHdrLen ∧
          decapsulate .little x' m' 58 (tryN6Downlink .little x f m).1.frame =
            ⟨.redirect (m'.ifIndex.get 1), eth ++ f.drop ethHdrLen⟩ := by
  obtain ⟨hlen, hdr, hrec, hframe⟩ := downlink_layout h
  have hpkt : 24 ≤ (f.drop ethHdrLen).length := by
    rw [List.length_drop, ethHdrLen]
    omega
  rw [hframe]
  exact ⟨hdr, rfl, hrec.parseUplink hpkt, fun x' m' hstrip =>
    decapsulate_append hdr.length_bytes (by decide) hstrip⟩

open SmfSim in
/-- A segment for UE 1 through the tunnel of the simulator's session and back. -/
theorem decapsulate_downlink_segment :
    ∃ eth, eth.length = ethHdrLen ∧
      decapsulate .little machine (Audit.after host boot [setup smfA 1, establish smfA 1 ue1]).maps
          58 (tryN6Downlink .little machine (downlinkFrame ue1)
            (Audit.after host boot [setup smfA 1, establish smfA 1 ue1]).maps).1.frame =
        ⟨.redirect ((Audit.after host boot
          [setup smfA 1, establish smfA 1 ue1]).maps.ifIndex.get 1),
          eth ++ (downlinkFrame ue1).drop ethHdrLen⟩ := by
  obtain ⟨hdr, -, -, hdecap⟩ := decapsulate_downlink machine (downlinkFrame ue1)
    (Audit.after host boot [setup smfA 1, establish smfA 1 ue1]).maps (by decide +kernel)
  exact hdecap machine _ (by decide +kernel)

end UpfEdge
