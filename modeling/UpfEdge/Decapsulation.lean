import UpfEdge.Encapsulation

/-!
# Where the inner packet starts

A packet in a GTP-U tunnel stands behind headers of varying length: the IP header may have options,
and the GTP-U header is followed by four octets when one of its flags E, S and PN is set and, with
E, by a chain of extension headers, each of which says how long it is and what comes after it.

`try_n3_uplink` looks at none of these lengths.  It reads the UDP and GTP-U headers where they stand
behind an IP header without options, and takes the octets behind the GTP-U header for 8 with E and
for 4 with S or PN.  So it strips what stands in front of the inner packet for one shape of chain
only (`stripsOuter_iff`): a single extension header of four octets, or none and no E.  A frame with
IP options it can only get right by accident, from an octet that is not the flags.
-/

namespace UpfEdge

open Lib Pfcp Server Xdp

namespace Xdp

/-! ### Frames on N3 -/

/-- An extension header with the type that announces it.  Its length octet counts units of four
octets, from that octet up to the octet with the type of the next header. -/
structure ExtHeader where
  type : UInt8
  units : UInt8
  content : Bytes
  type_ne : type ≠ 0
  size : content.length + 2 = 4 * units.toNat

/-- A chain of extension headers, each behind the type that announces it; the last announces
none. -/
def chainBytes : List ExtHeader → Bytes
  | [] => [0]
  | h :: hs => h.type :: h.units :: h.content ++ chainBytes hs

/-- The length of a chain, in units of four octets. -/
def chainUnits (hs : List ExtHeader) : ℕ := (hs.map fun h => h.units.toNat).sum

theorem length_chainBytes (hs : List ExtHeader) :
    (chainBytes hs).length = 1 + 4 * chainUnits hs := by
  induction hs with
  | nil => rfl
  | cons h hs ih =>
    have hsize := h.size
    simp only [chainBytes, List.length_append, List.length_cons, ih, chainUnits, List.map_cons,
      List.sum_cons]
    omega

/-- A G-PDU on N3.  The fields on which no length depends may hold anything. -/
structure GtpuFrame where
  macs : Bytes
  ihl : ℕ
  -- from the type of service to the time to live, and from the checksum to the addresses
  ipHead : Bytes
  ipTail : Bytes
  options : Bytes
  srcPort : UInt16
  udpLen : UInt16
  udpCheck : UInt16
  flags : UInt8
  -- length and TEID
  gtpuTail : Bytes
  -- sequence number and N-PDU number
  numbers : Bytes
  unusedType : UInt8
  chain : List ExtHeader
  inner : Bytes
  macs_length : macs.length = 12
  ihl_mem : 5 ≤ ihl ∧ ihl ≤ 15
  ipHead_length : ipHead.length = 8
  ipTail_length : ipTail.length = 10
  options_length : options.length = 4 * (ihl - 5)
  version : flags >>> 4 = 3
  gtpuTail_length : gtpuTail.length = 6
  numbers_length : numbers.length = 3

namespace GtpuFrame

def hasExt (w : GtpuFrame) : Prop := w.flags &&& gtpuFlagE ≠ 0

def hasNumbers (w : GtpuFrame) : Prop := w.flags &&& (gtpuFlagS ||| gtpuFlagPn) ≠ 0

instance (w : GtpuFrame) : Decidable w.hasExt := inferInstanceAs (Decidable (_ ≠ _))

instance (w : GtpuFrame) : Decidable w.hasNumbers := inferInstanceAs (Decidable (_ ≠ _))

/-- What follows the eight octets that every GTP-U header has.  Without E, the type of the next
extension header is there but has no meaning. -/
def optional (w : GtpuFrame) : Bytes :=
  if w.hasExt then w.numbers ++ chainBytes w.chain
  else if w.hasNumbers then w.numbers ++ [w.unusedType]
  else []

def udp (w : GtpuFrame) : Bytes :=
  u16ToBe w.srcPort ++ u16ToBe gtpUdpPort ++ u16ToBe w.udpLen ++ u16ToBe w.udpCheck

def ip (w : GtpuFrame) : Bytes :=
  UInt8.ofNat (0x40 + w.ihl) :: w.ipHead ++ [17] ++ w.ipTail ++ w.options

def headers (w : GtpuFrame) : Bytes :=
  w.macs ++ [0x08, 0x00] ++ w.ip ++ w.udp ++ w.flags :: gtpuGpdu :: w.gtpuTail ++ w.optional

def bytes (w : GtpuFrame) : Bytes := w.headers ++ w.inner

/-- Where the inner packet starts. -/
def innerOffset (w : GtpuFrame) : ℕ := w.headers.length

theorem length_optional (w : GtpuFrame) : w.optional.length =
    if w.hasExt then 4 + 4 * chainUnits w.chain else if w.hasNumbers then 4 else 0 := by
  have hnumbers := w.numbers_length
  unfold optional
  split_ifs
  · rw [List.length_append, length_chainBytes]
    omega
  · rw [List.length_append, hnumbers]
    rfl
  · rfl

theorem innerOffset_eq (w : GtpuFrame) : w.innerOffset = 4 * w.ihl + 30 + w.optional.length := by
  have hihl := w.ihl_mem.1
  simp only [innerOffset, headers, ip, udp, List.length_append, List.length_cons, List.length_nil,
    w.macs_length, w.ipHead_length, w.ipTail_length, w.options_length, w.gtpuTail_length]
  have hword : ∀ x, (u16ToBe x).length = 2 := fun _ => rfl
  simp only [hword]
  omega

end GtpuFrame

/-! ### What the uplink program makes of them -/

/-- `opt_len`: what the program takes for the length of the part behind the GTP-U header. -/
def optLen (flags : UInt8) : ℕ :=
  if flags &&& gtpuFlagE ≠ 0 then gtpuExtHdrLen
  else if flags &&& (gtpuFlagS ||| gtpuFlagPn) ≠ 0 then gtpuOptLen
  else 0

theorem optLen_le (flags : UInt8) : optLen flags ≤ 8 := by
  unfold optLen
  split_ifs <;> decide

section Programs

variable {e : Endian} {x : XdpEnv} {f : Bytes} {m : Maps}

/-- The length to strip is read off the octet at 42. -/
theorem parseUplink_outerTotal {p : UplinkPacket} (h : parseUplink e f = some p) :
    ∃ flags, f[42]? = some flags ∧ p.outerTotal = 50 + optLen flags := by
  simp only [parseUplink, Option.bind_eq_bind, Option.bind_eq_some_iff] at h
  obtain ⟨_, -, _, -, _, -, _, -, _, -, _, -, gtpu, hgtpu, flags, hflags, _, -, _, -, _, -, _, -, _,
    -, _, -, heq⟩ := h
  obtain ⟨-, rfl⟩ := ptrAt_eq_some hgtpu
  obtain rfl := (Option.some.inj heq).symm
  have hget : f[42]? = some flags := by
    rw [List.getElem?_take_of_lt (by decide), List.getElem?_drop] at hflags
    exact hflags
  exact ⟨flags, hget, rfl⟩

/-- A frame that the uplink program redirects: a new Ethernet header in place of as many bytes as it
took for the outer headers. -/
theorem uplink_frame (h : (tryN3Uplink e x f m).1.redirected = true) :
    ∃ p eth, parseUplink e f = some p ∧ p.outerTotal ≤ f.length ∧ eth.length = ethHdrLen ∧
      (tryN3Uplink e x f m).1.frame = eth ++ f.drop p.outerTotal := by
  rw [tryN3Uplink_eq] at h ⊢
  cases hm : uplinkMatch e f m with
  | none =>
    rw [hm] at h
    cases h
  | some ps =>
    obtain ⟨p, session⟩ := ps
    obtain ⟨hp, -⟩ := uplinkMatch_row hm
    obtain ⟨flags, -, htotal⟩ := parseUplink_outerTotal hp
    have hle : p.outerTotal ≤ f.length := by
      obtain ⟨bs, hbs, -⟩ := Option.map_eq_some_iff.mp (parseUplink_reads hp).2.1
      have hlen := (ptrAt_eq_some hbs).1
      omega
    rw [hm] at h
    simp only [forwardUplink] at h ⊢
    split_ifs at h ⊢
    · cases h
    · rw [decapsulate_redirected hp] at h
      have hsplit : f.take p.outerTotal ++ f.drop p.outerTotal = f := List.take_append_drop ..
      rw [← hsplit] at h
      obtain ⟨eth, heth, hdecap⟩ := decapsulate_append (e := e)
        (m := urrCount x.cpu session.seid (matchedUrrId (selected m session ifaceAccess p.tuple))
          (pktLen f) false (statsRx x.cpu ⟨p.tuple.srcIp⟩ (pktLen f) m))
        (List.length_take_of_le hle) (by omega) h
      rw [hsplit] at hdecap
      exact ⟨p, eth, hp, hle, heth, by rw [hdecap]⟩

end Programs

namespace GtpuFrame

/-- The first octet of a 16-bit field. -/
def highOctet (v : UInt16) : UInt8 := UInt8.ofNat (v.toNat / 256)

theorem octet_append (pre : Bytes) (b : UInt8) (post : Bytes) {n : ℕ} (h : pre.length = n) :
    (pre ++ b :: post)[n]? = some b := by
  rw [List.getElem?_append_right (by omega), h, Nat.sub_self]
  rfl

/-- The octet that the program takes for the flags: with one word of options it is in the length of
the UDP header, with two it is in the source port. -/
theorem octet_flags (w : GtpuFrame) :
    (w.ihl = 5 → w.bytes[42]? = some w.flags) ∧
      (w.ihl = 6 → w.bytes[42]? = some (highOctet w.udpLen)) ∧
      (w.ihl = 7 → w.bytes[42]? = some (highOctet w.srcPort)) := by
  have hword : ∀ v, u16ToBe v = [highOctet v, UInt8.ofNat v.toNat] := by
    simp [u16ToBe, bytesBe, highOctet]
  have hmacs := w.macs_length
  have hhead := w.ipHead_length
  have htail := w.ipTail_length
  have hoptions := w.options_length
  refine ⟨fun h => ?_, fun h => ?_, fun h => ?_⟩
  · rw [h] at hoptions
    rw [bytes, headers, List.append_assoc, List.append_assoc]
    refine octet_append (w.macs ++ [0x08, 0x00] ++ w.ip ++ w.udp) _ _ ?_
    simp [ip, udp, hword, hmacs, hhead, htail, hoptions]
  · rw [h] at hoptions
    have hsplit : w.bytes = (w.macs ++ [0x08, 0x00] ++ w.ip ++ u16ToBe w.srcPort ++
        u16ToBe gtpUdpPort) ++ highOctet w.udpLen :: (UInt8.ofNat w.udpLen.toNat ::
          u16ToBe w.udpCheck ++ (w.flags :: gtpuGpdu :: w.gtpuTail ++ w.optional ++ w.inner)) := by
      simp [bytes, headers, udp, hword]
    rw [hsplit]
    refine octet_append _ _ _ ?_
    simp [ip, hword, hmacs, hhead, htail, hoptions]
  · rw [h] at hoptions
    have hsplit : w.bytes = (w.macs ++ [0x08, 0x00] ++ w.ip) ++ highOctet w.srcPort ::
        (UInt8.ofNat w.srcPort.toNat :: u16ToBe gtpUdpPort ++ u16ToBe w.udpLen ++
          u16ToBe w.udpCheck ++ (w.flags :: gtpuGpdu :: w.gtpuTail ++ w.optional ++ w.inner)) := by
      simp [bytes, headers, udp, hword]
    rw [hsplit]
    refine octet_append _ _ _ ?_
    simp [ip, hmacs, hhead, htail, hoptions]

/-- The frames whose inner packet starts where the program has it start.  Without IP options: those
with E have four octets of extension headers.  With one or two words of options, the octet that is
taken for the flags is not the flags, but that of the UDP length or of the source port, and makes up
for the options: with one word it has S or PN and not E, and the frame has none of the flags, or it
has E, and the frame S or PN or, with E, no extension header; with two words it has E, and the frame
none of the flags. -/
def ReadRight (w : GtpuFrame) : Prop :=
  (w.ihl = 5 ∧ (w.hasExt → chainUnits w.chain = 1)) ∨
    (w.ihl = 6 ∧ highOctet w.udpLen &&& gtpuFlagE = 0 ∧
      highOctet w.udpLen &&& (gtpuFlagS ||| gtpuFlagPn) ≠ 0 ∧ ¬ w.hasExt ∧ ¬ w.hasNumbers) ∨
    (w.ihl = 6 ∧ highOctet w.udpLen &&& gtpuFlagE ≠ 0 ∧
      if w.hasExt then w.chain = [] else w.hasNumbers) ∨
    (w.ihl = 7 ∧ highOctet w.srcPort &&& gtpuFlagE ≠ 0 ∧ ¬ w.hasExt ∧ ¬ w.hasNumbers)

theorem chainUnits_eq_zero_iff (hs : List ExtHeader) : chainUnits hs = 0 ↔ hs = [] := by
  cases hs with
  | nil => exact iff_of_true rfl rfl
  | cons h hs =>
    have hsize := h.size
    simp only [chainUnits, List.map_cons, List.sum_cons, reduceCtorEq, iff_false]
    omega

/-- An octet taken for the flags makes up for one word of options. -/
theorem optLen_eq_add_four_iff (w : GtpuFrame) (b : UInt8) :
    optLen b = w.optional.length + 4 ↔
      (b &&& gtpuFlagE = 0 ∧ b &&& (gtpuFlagS ||| gtpuFlagPn) ≠ 0 ∧ ¬ w.hasExt ∧ ¬ w.hasNumbers) ∨
        (b &&& gtpuFlagE ≠ 0 ∧ if w.hasExt then w.chain = [] else w.hasNumbers) := by
  have hopt : optLen b = if b &&& gtpuFlagE ≠ 0 then 8 else
      if b &&& (gtpuFlagS ||| gtpuFlagPn) ≠ 0 then 4 else 0 := rfl
  rw [length_optional, hopt, ← chainUnits_eq_zero_iff]
  by_cases he : b &&& gtpuFlagE = 0
  · by_cases hs : b &&& (gtpuFlagS ||| gtpuFlagPn) = 0
    · simp [he, hs]
    · by_cases hext : w.hasExt <;> by_cases hnumbers : w.hasNumbers <;>
        simp [he, hs, hext, hnumbers]
  · by_cases hext : w.hasExt
    · simp [he, hext]
    · by_cases hnumbers : w.hasNumbers <;> simp [he, hext, hnumbers]

/-- An octet taken for the flags makes up for two words of options. -/
theorem optLen_eq_add_eight_iff (w : GtpuFrame) (b : UInt8) :
    optLen b = w.optional.length + 8 ↔ b &&& gtpuFlagE ≠ 0 ∧ ¬ w.hasExt ∧ ¬ w.hasNumbers := by
  have hle := optLen_le b
  rw [length_optional]
  by_cases hext : w.hasExt
  · rw [if_pos hext]
    exact iff_of_false (by omega) fun h => h.2.1 hext
  · by_cases hnumbers : w.hasNumbers
    · rw [if_neg hext, if_pos hnumbers]
      exact iff_of_false (by omega) fun h => h.2.2 hnumbers
    · have hopt : optLen b = if b &&& gtpuFlagE ≠ 0 then 8 else
          if b &&& (gtpuFlagS ||| gtpuFlagPn) ≠ 0 then 4 else 0 := rfl
      rw [if_neg hext, if_neg hnumbers, hopt]
      split_ifs with he hs <;> simp [*]

/-- Without options the program takes the flags for what they are. -/
theorem optLen_flags (w : GtpuFrame) :
    optLen w.flags = w.optional.length ↔ (w.hasExt → chainUnits w.chain = 1) := by
  have hopt : optLen w.flags = if w.hasExt then 8 else if w.hasNumbers then 4 else 0 := rfl
  rw [length_optional, hopt]
  by_cases hext : w.hasExt
  · rw [if_pos hext, if_pos hext]
    constructor
    · intro h _
      omega
    · intro h
      have hone := h hext
      omega
  · rw [if_neg hext, if_neg hext]
    exact iff_of_true rfl fun h => absurd h hext

theorem outerTotal_iff (w : GtpuFrame) {e : Endian} {p : UplinkPacket}
    (h : parseUplink e w.bytes = some p) : p.outerTotal = w.innerOffset ↔ w.ReadRight := by
  obtain ⟨flags, hget, htotal⟩ := parseUplink_outerTotal h
  obtain ⟨h5, h6, h7⟩ := w.octet_flags
  have hmin := w.ihl_mem.1
  have hle := optLen_le flags
  rw [htotal, innerOffset_eq, ReadRight, ← optLen_flags, ← or_assoc (a := w.ihl = 6 ∧ _),
    ← and_or_left, ← optLen_eq_add_four_iff, ← optLen_eq_add_eight_iff]
  by_cases hfive : w.ihl = 5
  · obtain rfl := Option.some.inj (hget.symm.trans (h5 hfive))
    omega
  by_cases hsix : w.ihl = 6
  · obtain rfl := Option.some.inj (hget.symm.trans (h6 hsix))
    omega
  by_cases hseven : w.ihl = 7
  · obtain rfl := Option.some.inj (hget.symm.trans (h7 hseven))
    omega
  -- with more options the inner packet starts behind anything the program strips
  · omega

/-- The program strips the outer headers: as many bytes as stand in front of the inner packet, so
that it hands on the inner packet. -/
def StripsOuter (e : Endian) (x : XdpEnv) (m : Maps) (w : GtpuFrame) : Prop :=
  ∃ p eth, parseUplink e w.bytes = some p ∧ p.outerTotal = w.innerOffset ∧
    eth.length = ethHdrLen ∧ (tryN3Uplink e x w.bytes m).1.frame = eth ++ w.inner

end GtpuFrame

end Xdp

/-- **Decapsulation strips the outer headers of one shape of frame only.** -/
theorem stripsOuter_iff (e : Endian) (x : XdpEnv) (m : Maps) (w : GtpuFrame)
    (h : (tryN3Uplink e x w.bytes m).1.redirected = true) :
    w.StripsOuter e x m ↔ w.ReadRight := by
  obtain ⟨p, eth, hp, -, heth, hframe⟩ := uplink_frame h
  rw [← w.outerTotal_iff hp]
  constructor
  · rintro ⟨p', -, hp', htotal, -⟩
    obtain rfl := Option.some.inj (hp.symm.trans hp')
    exact htotal
  · intro htotal
    have hinner : w.bytes.drop p.outerTotal = w.inner := by
      rw [htotal, GtpuFrame.innerOffset, GtpuFrame.bytes, List.drop_left]
    exact ⟨p, eth, hp, htotal, heth, by rw [hframe, hinner]⟩

section Sim

open SmfSim

/-- UE 1 sends a segment to the server, in a tunnel packet with the given chain of extension
headers. -/
def chainedFrame (chain : List ExtHeader) : GtpuFrame where
  macs := ethernet.take 12
  ihl := 5
  ipHead := [0, 0, 64 + UInt8.ofNat (4 * chainUnits chain), 0, 0, 0, 0, 64]
  ipTail := [0x66, 0x99 - UInt8.ofNat (4 * chainUnits chain)] ++ gnb.octets ++ [10, 0, 0, 1]
  options := []
  srcPort := 2152
  udpLen := 44 + UInt16.ofNat (4 * chainUnits chain)
  udpCheck := 0
  flags := 0x34
  gtpuTail := [0, 28 + UInt8.ofNat (4 * chainUnits chain), 0, 0, 0x03, 0xE8]
  numbers := [0, 0, 0]
  unusedType := 0
  chain
  inner := ipv4 6 ue1 server tcpPorts
  macs_length := rfl
  ihl_mem := by decide
  ipHead_length := rfl
  ipTail_length := rfl
  options_length := rfl
  version := by decide
  gtpuTail_length := rfl
  numbers_length := rfl

/-- The PDU Session Container of an uplink packet, in four octets. -/
def pduSessionContainer : ExtHeader where
  type := 0x85
  units := 1
  content := [0x10, 0x01]
  type_ne := by decide
  size := rfl

/-- An extension header of 24 octets, with the address of UE 1 among them. -/
def longHeader : ExtHeader where
  type := 0x40
  units := 6
  content := List.replicate 12 0 ++ [6, 0, 0] ++ ue1.octets ++ List.replicate 3 0
  type_ne := by decide
  size := rfl

/-- The packet with a PDU Session Container is handed on. -/
theorem stripsOuter_iff_container :
    (chainedFrame [pduSessionContainer]).StripsOuter .little machine
      (Audit.after host boot [setup smfA 1, establish smfA 1 ue1]).maps :=
  (stripsOuter_iff .little machine _ (chainedFrame [pduSessionContainer]) (by decide +kernel)).mpr
    (Or.inl ⟨rfl, fun _ => rfl⟩)

/-- The packet with the long header is redirected with 20 octets of that header in front. -/
theorem not_stripsOuter_longHeader :
    ¬ ((tryN3Uplink .little machine (chainedFrame [longHeader]).bytes
        (Audit.after host boot [setup smfA 1, establish smfA 1 ue1]).maps).1.redirected = true →
      (chainedFrame [longHeader]).StripsOuter .little machine
        (Audit.after host boot [setup smfA 1, establish smfA 1 ue1]).maps) := by
  intro h
  obtain ⟨p, -, hp, htotal, -⟩ := h (by decide +kernel)
  have hread : (parseUplink .little (chainedFrame [longHeader]).bytes).map (·.outerTotal) =
      some 58 := by decide +kernel
  have hoffset : (chainedFrame [longHeader]).innerOffset = 78 := by decide +kernel
  rw [hp, Option.map_some, htotal, hoffset] at hread
  cases hread

end Sim

end UpfEdge
