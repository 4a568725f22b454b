import UpfEdge.Server.State

/-!
# The XDP programs

`upf-edge-ebpf/src/main.rs` and `gtpu.rs`: the uplink program on N3 and the downlink program on N6,
as functions from a frame and the maps to an action, the frame as it leaves, and the maps.

The kernel helper `bpf_xdp_adjust_head` is a field of `XdpEnv`, with what it is documented to do:
when it succeeds it moves the start of the frame and keeps the bytes behind the new start.
-/

namespace UpfEdge.Xdp

open Lib Server

/-! ### Frames -/

def ethHdrLen : ℕ := 14
def ipHdrLen : ℕ := 20
def udpHdrLen : ℕ := 8
def gtpuHdrLen : ℕ := 8
def gtpuOptLen : ℕ := 4
def gtpuExtHdrLen : ℕ := 8

def gtpuFlagS : UInt8 := 0x02
def gtpuFlagPn : UInt8 := 0x01
def gtpuFlagE : UInt8 := 0x04
def gtpuGpdu : UInt8 := 0xFF

/-- What a program sees of the machine it runs on. -/
structure XdpEnv where
  cpu : ℕ
  adjustHead : Bytes → ℤ → Option Bytes
  adjustHead_strip : ∀ {f f' : Bytes} {n : ℕ}, adjustHead f n = some f' → f' = f.drop n
  adjustHead_grow : ∀ {f f' : Bytes} {n : ℕ}, adjustHead f (-n) = some f' →
    ∃ room, room.length = n ∧ f' = room ++ f

/-- `ptr_at`: the `len` bytes at an offset, when the frame has them. -/
def ptrAt (f : Bytes) (offset len : ℕ) : Option Bytes :=
  if f.length < offset + len then none else some ((f.drop offset).take len)

def readU8 (f : Bytes) (offset : ℕ) : Option UInt8 := (ptrAt f offset 1).bind (·.head?)

/-- A raw 16-bit load. -/
def readU16 (e : Endian) (f : Bytes) (offset : ℕ) : Option UInt16 :=
  (ptrAt f offset 2).map e.load16

/-- A raw 32-bit load. -/
def readU32 (e : Endian) (f : Bytes) (offset : ℕ) : Option UInt32 :=
  (ptrAt f offset 4).map e.load32

/-- A 16-bit load followed by `u16::from_be`, which swaps the same bytes as `to_be`. -/
def readBe16 (e : Endian) (f : Bytes) (offset : ℕ) : Option UInt16 :=
  (readU16 e f offset).map e.toBe16

inductive XdpAction where
  | pass
  | drop
  | redirect (ifindex : UInt32)
  deriving DecidableEq, Repr

/-- What a program returns, and the frame as it then stands. -/
structure XdpResult where
  action : XdpAction
  frame : Bytes
  deriving DecidableEq, Repr

def XdpResult.redirected (r : XdpResult) : Bool :=
  match r.action with
  | .redirect _ => true
  | _ => false

/-! ### Rule selection -/

/-- The five-tuple of a packet, as loaded. -/
structure FiveTuple where
  proto : UInt8
  srcIp : UInt32
  dstIp : UInt32
  srcPort : UInt16
  dstPort : UInt16
  deriving DecidableEq, Repr

def sdfMatches (pdr : PdrValue) (t : FiveTuple) : Bool :=
  if pdr.sdfProto ≠ 0 ∧ pdr.sdfProto ≠ t.proto then false
  else if pdr.sdfSrcIp ≠ 0 ∧ pdr.sdfSrcIp ≠ t.srcIp then false
  else if pdr.sdfDstIp ≠ 0 ∧ pdr.sdfDstIp ≠ t.dstIp then false
  else if pdr.sdfSrcPort ≠ 0 ∧ pdr.sdfSrcPort ≠ t.srcPort then false
  else if pdr.sdfDstPort ≠ 0 ∧ pdr.sdfDstPort ≠ t.dstPort then false
  else true

/-- One turn of the loop of `select_far`: the best FAR so far with its URR id, and its
precedence. -/
def selectStep (m : Maps) (seid : UInt64) (iface : UInt8) (t : FiveTuple)
    (best : Option (FarValue × UInt32) × UInt32) (pdrId : UInt32) :
    Option (FarValue × UInt32) × UInt32 :=
  match m.pdrMap.lookup (.new seid pdrId) with
  | none => best
  | some pdr =>
    if pdr.sourceInterface ≠ iface then best
    else if !sdfMatches pdr t then best
    else if pdr.precedence ≥ best.2 then best
    else
      match m.farMap.lookup (.new seid pdr.farId) with
      | none => best
      | some far => (some (far, pdr.urrId), pdr.precedence)

def selectFar (m : Maps) (session : SessionInfo) (iface : UInt8) (t : FiveTuple) :
    Option (FarValue × UInt32) :=
  (session.listed.foldl (selectStep m session.seid iface t) (none, 0xFFFFFFFF)).1

/-- `downlink_get_far`: the FAR of the first listed core-side PDR that has one. -/
def downlinkGetFar (m : Maps) (session : SessionInfo) : Option FarValue :=
  session.listed.findSome? fun pdrId =>
    (m.pdrMap.lookup (.new session.seid pdrId)).bind fun pdr =>
      if pdr.sourceInterface ≠ ifaceCore then none
      else m.farMap.lookup (.new session.seid pdr.farId)

/-- The selection both programs make; a session without PDRs selects nothing. -/
def selected (m : Maps) (session : SessionInfo) (iface : UInt8) (t : FiveTuple) :
    Option (FarValue × UInt32) :=
  if session.pdrCount > 0 then selectFar m session iface t else none

def matchedUrrId (sel : Option (FarValue × UInt32)) : UInt32 := (sel.map Prod.snd).getD 0

def isDrop (far : FarValue) : Bool := far.applyAction &&& actionDrop ≠ 0
def isForw (far : FarValue) : Bool := far.applyAction &&& actionForw ≠ 0

def shouldDrop (sel : Option (FarValue × UInt32)) : Bool :=
  match sel with
  | some (far, _) => isDrop far
  | none => false

/-! ### Counters -/

/-- Change the value of one CPU. -/
def onCpu {V : Type} (cpu : ℕ) (f : V → V) (row : PerCpu V) : PerCpu V :=
  Function.update row cpu (f (row cpu))

/-- Get-or-insert on a per-CPU map: update this CPU's value, or start a row whose other CPUs hold
the default.  A full map drops the new row. -/
def countRow {cap : ℕ} {K V : Type} [DecidableEq K] [Inhabited V] (cpu : ℕ) (k : K) (f : V → V)
    (t : BoundedTable cap K (PerCpu V)) : BoundedTable cap K (PerCpu V) :=
  match t.lookup k with
  | some _ => t.modify k (onCpu cpu f)
  | none => (t.insert k (onCpu cpu f fun _ => default)).getD t

/-- One packet added to the counters of a direction. -/
def UrrStats.count (uplink : Bool) (pktLen : UInt64) (stats : UrrStats) : UrrStats :=
  if uplink then
    { stats with ulPackets := stats.ulPackets + 1, ulBytes := stats.ulBytes + pktLen }
  else
    { stats with dlPackets := stats.dlPackets + 1, dlBytes := stats.dlBytes + pktLen }

def urrCount (cpu : ℕ) (seid : UInt64) (urrId : UInt32) (pktLen : UInt64) (uplink : Bool)
    (m : Maps) : Maps :=
  if urrId = 0 then m
  else
    { m with
      urrMap := countRow cpu (UrrKey.new seid urrId) (UrrStats.count uplink pktLen) m.urrMap }

def SessionStats.rx (pktLen : UInt64) (stats : SessionStats) : SessionStats :=
  { stats with rxPackets := stats.rxPackets + 1, rxBytes := stats.rxBytes + pktLen }

def SessionStats.tx (pktLen : UInt64) (stats : SessionStats) : SessionStats :=
  { stats with txPackets := stats.txPackets + 1, txBytes := stats.txBytes + pktLen }

def statsRx (cpu : ℕ) (key : SessionKey) (pktLen : UInt64) (m : Maps) : Maps :=
  { m with statsMap := countRow cpu key (SessionStats.rx pktLen) m.statsMap }

def statsTx (cpu : ℕ) (key : SessionKey) (pktLen : UInt64) (m : Maps) : Maps :=
  { m with statsMap := countRow cpu key (SessionStats.tx pktLen) m.statsMap }

def pktLen (f : Bytes) : UInt64 := UInt64.ofNat f.length

/-! ### Uplink -/

/-- What the uplink program reads of a frame: how much to strip, and the inner five-tuple. -/
structure UplinkPacket where
  outerTotal : ℕ
  tuple : FiveTuple

/-- Inner ports are read for TCP and UDP only. -/
def innerPorts (e : Endian) (f : Bytes) (outerTotal : ℕ) (proto : UInt8) :
    Option (UInt16 × UInt16) :=
  if proto = 6 ∨ proto = 17 then do
    let sp ← readU16 e f (outerTotal + 20)
    let dp ← readU16 e f (outerTotal + 22)
    return (sp, dp)
  else some (0, 0)

/-- Steps 1 to 6 of `try_n3_uplink`; every early exit there is XDP_PASS. -/
def parseUplink (e : Endian) (f : Bytes) : Option UplinkPacket := do
  let ethType ← readBe16 e f 12
  guard (ethType = 0x0800)
  let ipProto ← readU8 f (ethHdrLen + 9)
  guard (ipProto = 17)
  let udpDst ← readBe16 e f (ethHdrLen + ipHdrLen + 2)
  guard (udpDst = gtpUdpPort)
  let gtpu ← ptrAt f (ethHdrLen + ipHdrLen + udpHdrLen) gtpuHdrLen
  let flags ← gtpu[0]?
  let msgType ← gtpu[1]?
  guard (msgType = gtpuGpdu)
  let optLen :=
    if flags &&& gtpuFlagE ≠ 0 then gtpuExtHdrLen
    else if flags &&& (gtpuFlagS ||| gtpuFlagPn) ≠ 0 then gtpuOptLen
    else 0
  let outerTotal := ethHdrLen + ipHdrLen + udpHdrLen + gtpuHdrLen + optLen
  let ueIp ← readU32 e f (outerTotal + 12)
  let proto ← readU8 f (outerTotal + 9)
  let dstIp ← readU32 e f (outerTotal + 16)
  let (srcPort, dstPort) ← innerPorts e f outerTotal proto
  return { outerTotal, tuple := { proto, srcIp := ueIp, dstIp, srcPort, dstPort } }

/-- The end of `try_n3_uplink`: strip the outer headers, put an Ethernet header in front of the
inner packet, redirect to N6. -/
def decapsulate (e : Endian) (x : XdpEnv) (m : Maps) (outerTotal : ℕ) (f : Bytes) : XdpResult :=
  match ptrAt f 6 6 with
  | none => ⟨.pass, f⟩
  | some ethSrc =>
    match x.adjustHead f outerTotal with
    | none => ⟨.pass, f⟩
    | some stripped =>
      match x.adjustHead stripped (-ethHdrLen) with
      | none => ⟨.pass, stripped⟩
      | some grown =>
        if grown.length < ethHdrLen then ⟨.pass, grown⟩
        else ⟨.redirect m.ifIndex[1],
          m.gwMac[0].addr ++ ethSrc ++ e.store16 0x0008 ++ grown.drop ethHdrLen⟩

/-- The uplink program once it has found the session of the packet.  It counts for the URR with
the downlink flag, as the source does. -/
def forwardUplink (e : Endian) (x : XdpEnv) (f : Bytes) (p : UplinkPacket)
    (session : SessionInfo) (m : Maps) : XdpResult × Maps :=
  let sel := selected m session ifaceAccess p.tuple
  if shouldDrop sel then (⟨.drop, f⟩, m)
  else
    let m := statsRx x.cpu ⟨p.tuple.srcIp⟩ (pktLen f) m
    let m := urrCount x.cpu session.seid (matchedUrrId sel) (pktLen f) false m
    (decapsulate e x m p.outerTotal f, m)

def tryN3Uplink (e : Endian) (x : XdpEnv) (f : Bytes) (m : Maps) : XdpResult × Maps :=
  match parseUplink e f with
  | none => (⟨.pass, f⟩, m)
  | some p =>
    match m.sessionMap.lookup ⟨p.tuple.srcIp⟩ with
    | none => (⟨.pass, f⟩, m)
    | some session => forwardUplink e x f p session m

/-! ### Downlink -/

/-- Steps 1 and 2 of `try_n6_downlink`. -/
def parseDownlink (e : Endian) (f : Bytes) : Option FiveTuple := do
  let ethType ← readBe16 e f 12
  guard (ethType = 0x0800)
  let proto ← readU8 f (ethHdrLen + 9)
  let srcIp ← readU32 e f (ethHdrLen + 12)
  let dstIp ← readU32 e f (ethHdrLen + 16)
  let srcPort ← readU16 e f (ethHdrLen + ipHdrLen)
  let dstPort ← readU16 e f (ethHdrLen + ipHdrLen + 2)
  return { proto, srcIp, dstIp, srcPort, dstPort }

structure IpHdr where
  versionIhl : UInt8
  tos : UInt8
  totLen : UInt16
  id : UInt16
  fragOff : UInt16
  ttl : UInt8
  protocol : UInt8
  check : UInt16
  saddr : UInt32
  daddr : UInt32

/-- The header in memory. -/
def IpHdr.bytes (e : Endian) (h : IpHdr) : Bytes :=
  [h.versionIhl, h.tos] ++ e.store16 h.totLen ++ e.store16 h.id ++ e.store16 h.fragOff ++
    [h.ttl, h.protocol] ++ e.store16 h.check ++ e.store32 h.saddr ++ e.store32 h.daddr

/-- The big-endian 16-bit words of a buffer. -/
def wordsBe : Bytes → List UInt16
  | a :: b :: rest => u16OfBe [a, b] :: wordsBe rest
  | _ => []

/-- `ip_checksum`: the words summed on 32 bits, two carry folds, complement. -/
def ipChecksum (e : Endian) (h : IpHdr) : UInt16 :=
  let sum : UInt32 := (wordsBe (h.bytes e)).foldl (fun s w => s + w.toUInt32) 0
  let sum := (sum &&& (0xFFFF : UInt32)) + (sum >>> 16)
  let sum := (sum &&& (0xFFFF : UInt32)) + (sum >>> 16)
  ~~~sum.toUInt16

/-- The PDU Session Container extension header (downlink, QFI 1). -/
def extBytes : Bytes := [0x00, 0x00, 0x00, 0x85, 0x01, 0x00, 0x01, 0x00]

/-- The headers `try_n6_downlink` writes in front of the inner packet. -/
def outerHeaders (e : Endian) (gnbMac ethSrc : Bytes) (upfIp gnbIpBe teidBe : UInt32)
    (innerIpTotLen : UInt16) : Bytes :=
  let outerIpLen := UInt16.ofNat (ipHdrLen + udpHdrLen + gtpuHdrLen + gtpuExtHdrLen) + innerIpTotLen
  let ip : IpHdr :=
    { versionIhl := 0x45, tos := 0, totLen := e.toBe16 outerIpLen, id := 0, fragOff := 0, ttl := 64
      protocol := 17, check := 0, saddr := upfIp, daddr := gnbIpBe }
  let ip := { ip with check := ipChecksum e ip }
  let udpLen := UInt16.ofNat (udpHdrLen + gtpuHdrLen + gtpuExtHdrLen) + innerIpTotLen
  let gtpLen := innerIpTotLen + UInt16.ofNat gtpuExtHdrLen
  (gnbMac ++ ethSrc ++ e.store16 0x0008) ++ ip.bytes e ++
    (e.store16 (e.toBe16 gtpUdpPort) ++ e.store16 (e.toBe16 gtpUdpPort) ++
      e.store16 (e.toBe16 udpLen) ++ e.store16 0) ++
    ([0x34, gtpuGpdu] ++ e.store16 (e.toBe16 gtpLen) ++ e.store32 teidBe) ++ extBytes

/-- The end of `try_n6_downlink`: make room, write the outer headers, redirect to N3. -/
def encapsulate (e : Endian) (x : XdpEnv) (m : Maps) (session : SessionInfo)
    (tunnel : UInt32 × UInt32) (f : Bytes) : XdpResult :=
  match readBe16 e f (ethHdrLen + 2), ptrAt f 0 6 with
  | some innerIpTotLen, some ethSrc =>
    let addLen := ipHdrLen + udpHdrLen + gtpuHdrLen + gtpuExtHdrLen
    match x.adjustHead f (-addLen) with
    | none => ⟨.pass, f⟩
    | some grown =>
      if grown.length < ethHdrLen + addLen then ⟨.pass, grown⟩
      else ⟨.redirect m.ifIndex[0],
        outerHeaders e m.gwMac[1].addr ethSrc session.upfIp tunnel.1 tunnel.2 innerIpTotLen ++
          grown.drop (ethHdrLen + addLen)⟩
  | _, _ => ⟨.pass, f⟩

/-- The tunnel of a downlink packet, `none` when the FAR drops it: the FAR's own endpoint when it
forwards, else the endpoint of the session row. -/
def downlinkTunnel (m : Maps) (session : SessionInfo) : Option (UInt32 × UInt32) :=
  if session.pdrCount > 0 then
    match downlinkGetFar m session with
    | some far =>
      if isDrop far then none
      else if isForw far then some (far.gnbIp, far.teid)
      else some (session.gnbIp, session.teid)
    | none => some (session.gnbIp, session.teid)
  else some (session.gnbIp, session.teid)

/-- The downlink program once it has found the session.  The URR id it selects is never counted. -/
def forwardDownlink (e : Endian) (x : XdpEnv) (f : Bytes) (t : FiveTuple) (session : SessionInfo)
    (m : Maps) : XdpResult × Maps :=
  if shouldDrop (selected m session ifaceCore t) then (⟨.drop, f⟩, m)
  else
    let m := statsTx x.cpu ⟨t.dstIp⟩ (pktLen f) m
    match downlinkTunnel m session with
    | none => (⟨.drop, f⟩, m)
    | some tunnel => (encapsulate e x m session tunnel f, m)

def tryN6Downlink (e : Endian) (x : XdpEnv) (f : Bytes) (m : Maps) : XdpResult × Maps :=
  match parseDownlink e f with
  | none => (⟨.pass, f⟩, m)
  | some t =>
    match m.sessionMap.lookup ⟨t.dstIp⟩ with
    | none => (⟨.pass, f⟩, m)
    | some session => forwardDownlink e x f t session m

end UpfEdge.Xdp
