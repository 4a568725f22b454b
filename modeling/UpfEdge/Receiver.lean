import UpfEdge.Encapsulation
import UpfEdge.Lib.OnesComplement

/-!
# What the receiver of a tunnelled packet checks

The outer headers of a packet carry three lengths and a header checksum.  The lengths are sums on 16
bits of the length that the inner packet gives for itself, which is not checked: they are right
exactly when none of them comes to more than 16 bits (`exactLengths_iff`).

`ip_checksum` computes the Internet checksum of the header as a number (`toNat_ipChecksum`), but the
number is stored as it is, with its bytes in the order of the machine.  A receiver on the other side
of a little-endian machine finds them swapped: the header verifies exactly when the sum of its other
words is a multiple of 257 (`checksumVerifies_iff`).
-/

namespace UpfEdge

open Lib Pfcp Server Xdp

namespace Xdp

/-! ### The headers -/

/-- The outer IP header before its checksum is filled in. -/
def bareHeader (e : Endian) (upfIp gnbIp : UInt32) (n : UInt16) : IpHdr where
  versionIhl := 0x45
  tos := 0
  totLen := e.toBe16 (UInt16.ofNat (ipHdrLen + udpHdrLen + gtpuHdrLen + gtpuExtHdrLen) + n)
  id := 0
  fragOff := 0
  ttl := 64
  protocol := 17
  check := 0
  saddr := upfIp
  daddr := gnbIp

/-- The outer IP header as it is written. -/
def outerHeader (e : Endian) (upfIp gnbIp : UInt32) (n : UInt16) : IpHdr :=
  { bareHeader e upfIp gnbIp n with check := ipChecksum e (bareHeader e upfIp gnbIp n) }

theorem outerHeaders_eq (e : Endian) {gnbMac ethSrc : Bytes} (hmac : gnbMac.length = 6)
    (hsrc : ethSrc.length = 6) (upfIp gnbIp teid : UInt32) (n : UInt16) :
    ∃ eth ports : Bytes, eth.length = 14 ∧ ports.length = 4 ∧
      outerHeaders e gnbMac ethSrc upfIp gnbIp teid n =
        eth ++ ((outerHeader e upfIp gnbIp n).bytes e ++
          (ports ++ (e.store16 (e.toBe16 (UInt16.ofNat 24 + n)) ++ (e.store16 0 ++
            ([0x34, gtpuGpdu] ++ (e.store16 (e.toBe16 (n + UInt16.ofNat 8)) ++
              (e.store32 teid ++ extBytes))))))) := by
  refine ⟨gnbMac ++ ethSrc ++ e.store16 0x0008,
    e.store16 (e.toBe16 gtpUdpPort) ++ e.store16 (e.toBe16 gtpUdpPort), ?_, ?_, ?_⟩
  · simp [hmac, hsrc, length_store16]
  · simp [length_store16]
  · simp only [outerHeaders, List.append_assoc]
    rfl

/-! ### The three lengths -/

/-- The number in the two bytes at an offset. -/
def field16At (f : Bytes) (offset : ℕ) : ℕ := natOfBe ((f.drop offset).take 2)

/-- The total length of the outer IP header, the length of the UDP header and the length of the
GTP-U header are those of an inner packet of `n` bytes. -/
def ExactLengths (f : Bytes) (n : ℕ) : Prop :=
  field16At f 16 = n + 44 ∧ field16At f 38 = n + 24 ∧ field16At f 44 = n + 8

theorem field16At_skip {as : Bytes} (bs : Bytes) {k n : ℕ} (has : as.length = k) (h : k ≤ n) :
    field16At (as ++ bs) n = field16At bs (n - k) := by
  have hn : n = as.length + (n - k) := by omega
  rw [field16At, field16At, hn, List.drop_length_add_append, ← hn]

theorem field16At_store16 (e : Endian) (v : UInt16) (bs : Bytes) :
    field16At (e.store16 (e.toBe16 v) ++ bs) 0 = v.toNat := by
  rw [field16At, List.drop_zero, List.take_left' (length_store16 ..), store16_toBe16,
    natOfBe_u16ToBe]

/-- The lengths as they are written. -/
theorem lengths_outerHeaders (e : Endian) {gnbMac ethSrc : Bytes} (rest : Bytes)
    (hmac : gnbMac.length = 6) (hsrc : ethSrc.length = 6) (upfIp gnbIp teid : UInt32) (n : UInt16) :
    field16At (outerHeaders e gnbMac ethSrc upfIp gnbIp teid n ++ rest) 16 =
        (n.toNat + 44) % 65536 ∧
      field16At (outerHeaders e gnbMac ethSrc upfIp gnbIp teid n ++ rest) 38 =
        (n.toNat + 24) % 65536 ∧
      field16At (outerHeaders e gnbMac ethSrc upfIp gnbIp teid n ++ rest) 44 =
        (n.toNat + 8) % 65536 := by
  obtain ⟨eth, ports, heth, hports, heq⟩ := outerHeaders_eq e hmac hsrc upfIp gnbIp teid n
  have hip : ((outerHeader e upfIp gnbIp n).bytes e).length = 20 := IpHdr.length_bytes ..
  have hadd : ∀ k : ℕ, k < 65536 → (UInt16.ofNat k + n).toNat = (n.toNat + k) % 65536 := by
    intro k hk
    rw [UInt16.toNat_add, UInt16.toNat_ofNat_of_lt' hk, Nat.add_comm]
  rw [heq]
  simp only [List.append_assoc]
  refine ⟨?_, ?_, ?_⟩
  · have hbytes : ∃ post, (outerHeader e upfIp gnbIp n).bytes e =
        [0x45, 0] ++ (e.store16 (e.toBe16 (UInt16.ofNat 44 + n)) ++ post) :=
      ⟨_, by simp only [IpHdr.bytes, List.append_assoc]; rfl⟩
    obtain ⟨post, hbytes⟩ := hbytes
    rw [field16At_skip _ heth (by decide), hbytes, List.append_assoc, List.append_assoc,
      field16At_skip _ (k := 2) rfl (by decide)]
    exact (field16At_store16 ..).trans (hadd 44 (by decide))
  · rw [field16At_skip _ heth (by decide), field16At_skip _ hip (by decide),
      field16At_skip _ hports (by decide)]
    exact (field16At_store16 ..).trans (hadd 24 (by decide))
  · rw [field16At_skip _ heth (by decide), field16At_skip _ hip (by decide),
      field16At_skip _ hports (by decide), field16At_skip _ (length_store16 ..) (by decide),
      field16At_skip _ (length_store16 ..) (by decide), field16At_skip _ (k := 2) rfl (by decide)]
    refine (field16At_store16 ..).trans ?_
    rw [UInt16.toNat_add]
    rfl

/-- **The outer lengths are exact exactly when none of the sums wraps.** -/
theorem exactLengths_iff (e : Endian) (x : XdpEnv) (f : Bytes) (m : Maps) (n : UInt16)
    (h : (tryN6Downlink e x f m).1.redirected = true)
    (hn : readBe16 e f (ethHdrLen + 2) = some n) :
    ExactLengths (tryN6Downlink e x f m).1.frame n.toNat ↔ n.toNat ≤ 65491 := by
  obtain ⟨t, session, tunnel, totLen, hm, -, htot, hframe⟩ := downlink_frame h
  obtain rfl : totLen = n := Option.some.inj (htot.symm.trans hn)
  have hlen := length_of_downlinkMatch hm
  have hsrc : (f.take 6).length = 6 := by
    rw [List.length_take]
    omega
  obtain ⟨hip, hudp, hgtpu⟩ := lengths_outerHeaders e (f.drop ethHdrLen) (m.gwMac.get 1).size hsrc
    session.upfIp tunnel.1 tunnel.2 totLen
  have hlt : totLen.toNat < 65536 := totLen.toNat_lt
  rw [hframe, ExactLengths, hip, hudp, hgtpu]
  omega

open SmfSim in
/-- The segment of 24 bytes for UE 1. -/
theorem exactLengths_iff_segment :
    ExactLengths (tryN6Downlink .little machine (downlinkFrame ue1)
      (Audit.after host boot [setup smfA 1, establish smfA 1 ue1]).maps).1.frame 24 :=
  (exactLengths_iff .little machine (downlinkFrame ue1) _ 24 (by decide +kernel)
    (by decide +kernel)).mpr (by decide)

open SmfSim in
/-- The same segment in a frame that gives 65535 as its total length. -/
def overlongFrame (ueIp : Ipv4Addr) : Bytes :=
  ethernet ++ [0x45, 0, 0xFF, 0xFF] ++ (ipv4 6 server ueIp tcpPorts).drop 4

open SmfSim in
/-- The frame that claims 65535 bytes is redirected, and its outer total length is 43. -/
theorem not_exactLengths_overlong :
    ¬ ((tryN6Downlink .little machine (overlongFrame ue1)
        (Audit.after host boot [setup smfA 1, establish smfA 1 ue1]).maps).1.redirected = true →
      readBe16 .little (overlongFrame ue1) (ethHdrLen + 2) = some 65535 →
      ExactLengths (tryN6Downlink .little machine (overlongFrame ue1)
        (Audit.after host boot [setup smfA 1, establish smfA 1 ue1]).maps).1.frame 65535) := by
  intro h
  have htotal : field16At (tryN6Downlink .little machine (overlongFrame ue1)
      (Audit.after host boot [setup smfA 1, establish smfA 1 ue1]).maps).1.frame 16 = 43 := by
    decide +kernel
  have hexact := (h (by decide +kernel) (by decide +kernel)).1
  rw [htotal] at hexact
  omega

/-! ### The checksum -/

/-- The sum of the big-endian words of a buffer. -/
def wordSum (bs : Bytes) : ℕ := ((wordsBe bs).map UInt16.toNat).sum

theorem toNat_le_max (w : UInt16) : w.toNat ≤ 65535 := Nat.le_of_lt_succ w.toNat_lt

theorem length_wordsBe : ∀ bs : Bytes, (wordsBe bs).length = bs.length / 2
  | [] => by simp [wordsBe]
  | [_] => by simp [wordsBe]
  | a :: b :: bs => by
    rw [wordsBe, List.length_cons, length_wordsBe bs, List.length_cons, List.length_cons]
    omega

theorem wordSum_append : ∀ {as : Bytes}, as.length % 2 = 0 → ∀ bs : Bytes,
    wordSum (as ++ bs) = wordSum as + wordSum bs
  | [], _, bs => by simp [wordSum, wordsBe]
  | [_], h, _ => by simp at h
  | a :: b :: as, h, bs => by
    have has : as.length % 2 = 0 := by
      rw [List.length_cons, List.length_cons] at h
      omega
    have ih := wordSum_append has bs
    simp only [wordSum] at ih
    simp only [wordSum, List.cons_append, wordsBe, List.map_cons, List.sum_cons, ih]
    omega

/-- The accumulator of `ip_checksum` does not overflow. -/
theorem toNat_foldl_words (ws : List UInt16) (acc : UInt32)
    (h : acc.toNat + 65535 * ws.length < 2 ^ 32) :
    (ws.foldl (fun s w => s + w.toUInt32) acc).toNat = acc.toNat + (ws.map UInt16.toNat).sum := by
  induction ws generalizing acc with
  | nil => simp
  | cons w ws ih =>
    have hw := toNat_le_max w
    rw [List.length_cons] at h
    have hadd : (acc + w.toUInt32).toNat = acc.toNat + w.toNat := by
      rw [UInt32.toNat_add, UInt16.toNat_toUInt32]
      exact Nat.mod_eq_of_lt (by omega)
    rw [List.foldl_cons, ih _ (by rw [hadd]; omega), hadd, List.map_cons, List.sum_cons,
      Nat.add_assoc]

/-- One fold of the accumulator. -/
theorem toNat_fold {s : UInt32} (h : s.toNat < 2 ^ 32 - 65535) :
    ((s &&& (0xFFFF : UInt32)) + (s >>> 16)).toNat = carryFold 65535 s.toNat := by
  have hand : (s &&& (0xFFFF : UInt32)).toNat = s.toNat % 65536 := by
    rw [UInt32.toNat_and]
    exact Nat.and_two_pow_sub_one_eq_mod s.toNat 16
  have hshift : (s >>> 16).toNat = s.toNat / 65536 := by
    simp [Nat.shiftRight_eq_div_pow]
  rw [UInt32.toNat_add, hand, hshift, carryFold]
  exact Nat.mod_eq_of_lt (by omega)

theorem wordSum_header_le (e : Endian) (h : IpHdr) : wordSum (h.bytes e) ≤ 655350 := by
  have hsum : ∀ ws : List UInt16, (ws.map UInt16.toNat).sum ≤ 65535 * ws.length := by
    intro ws
    induction ws with
    | nil => simp
    | cons w ws ih =>
      have hw := toNat_le_max w
      rw [List.map_cons, List.sum_cons, List.length_cons]
      omega
  have hle := hsum (wordsBe (h.bytes e))
  rw [length_wordsBe, IpHdr.length_bytes] at hle
  exact hle

/-- The accumulator of `ip_checksum` after both folds, before it is cut to 16 bits. -/
def foldedSum (e : Endian) (h : IpHdr) : UInt32 :=
  let sum : UInt32 := (wordsBe (h.bytes e)).foldl (fun s w => s + w.toUInt32) 0
  let sum := (sum &&& (0xFFFF : UInt32)) + (sum >>> 16)
  (sum &&& (0xFFFF : UInt32)) + (sum >>> 16)

theorem toNat_foldedSum (e : Endian) (h : IpHdr) :
    (foldedSum e h).toNat = onesRep 65535 (wordSum (h.bytes e)) := by
  have hle := wordSum_header_le e h
  have hacc : ((wordsBe (h.bytes e)).foldl (fun s w => s + w.toUInt32) (0 : UInt32)).toNat =
      wordSum (h.bytes e) := by
    rw [toNat_foldl_words _ _ (by rw [length_wordsBe, IpHdr.length_bytes]; decide)]
    exact Nat.zero_add _
  unfold foldedSum
  simp only
  generalize (wordsBe (h.bytes e)).foldl (fun s w => s + w.toUInt32) (0 : UInt32) = s at hacc ⊢
  have hone : ((s &&& (0xFFFF : UInt32)) + (s >>> 16)).toNat = carryFold 65535 s.toNat :=
    toNat_fold (by omega)
  generalize (s &&& (0xFFFF : UInt32)) + (s >>> 16) = s' at hone ⊢
  have hs' : s'.toNat < 2 ^ 32 - 65535 := by
    rw [hone, carryFold]
    omega
  rw [toNat_fold hs', hone, carryFold_carryFold (by omega), hacc]

/-- Cutting the accumulator to 16 bits loses nothing. -/
theorem toNat_toUInt16_foldedSum (e : Endian) (h : IpHdr) :
    (foldedSum e h).toUInt16.toNat = (foldedSum e h).toNat := by
  have hrep := onesRep_le (M := 65535) (by decide) (wordSum (h.bytes e))
  rw [UInt32.toNat_toUInt16, toNat_foldedSum, Nat.mod_eq_of_lt (by omega)]

/-- **What `ip_checksum` returns**: the complement of the one's complement sum of the words. -/
theorem toNat_ipChecksum (e : Endian) (h : IpHdr) :
    (ipChecksum e h).toNat = 65535 - onesRep 65535 (wordSum (h.bytes e)) := by
  change (~~~(foldedSum e h).toUInt16).toNat = _
  rw [UInt16.toNat_not, toNat_toUInt16_foldedSum, toNat_foldedSum]
  rfl

/-! ### The header as it is written -/

theorem wordSum_pair {bs : Bytes} (h : bs.length = 2) : wordSum bs = natOfBe bs := by
  obtain ⟨a, b, rfl⟩ := List.length_eq_two.mp h
  have hlt : natOfBe [a, b] < 256 ^ 2 := natOfBe_lt [a, b]
  have hsum : wordSum [a, b] = (u16OfBe [a, b]).toNat := by simp [wordSum, wordsBe]
  rw [hsum, u16OfBe, UInt16.toNat_ofNat_of_lt' hlt]

theorem wordSum_store16_zero (e : Endian) : wordSum (e.store16 0) = 0 := by
  cases e <;> decide

/-- The words of a header, one by one or, for the addresses, two by two. -/
theorem wordSum_header (e : Endian) (h : IpHdr) : wordSum (h.bytes e) =
    natOfBe [h.versionIhl, h.tos] + wordSum (e.store16 h.totLen) + wordSum (e.store16 h.id) +
      wordSum (e.store16 h.fragOff) + natOfBe [h.ttl, h.protocol] + wordSum (e.store16 h.check) +
      wordSum (e.store32 h.saddr) + wordSum (e.store32 h.daddr) := by
  have h16 : ∀ v, (e.store16 v).length % 2 = 0 := fun v => by rw [length_store16]
  have h32 : ∀ v, (e.store32 v).length % 2 = 0 := fun v => by rw [length_store32]
  have hpair : ∀ a b : UInt8, [a, b].length % 2 = 0 := fun _ _ => by simp
  have hfirst : wordSum [h.versionIhl, h.tos] = natOfBe [h.versionIhl, h.tos] := wordSum_pair rfl
  have hfifth : wordSum [h.ttl, h.protocol] = natOfBe [h.ttl, h.protocol] := wordSum_pair rfl
  rw [IpHdr.bytes]
  simp only [List.append_assoc]
  rw [wordSum_append (hpair ..), wordSum_append (h16 _), wordSum_append (h16 _),
    wordSum_append (h16 _), wordSum_append (hpair ..), wordSum_append (h16 _),
    wordSum_append (h32 _), hfirst, hfifth]
  omega

/-- A word put in the place of a zero check word adds to the sum. -/
theorem wordSum_setCheck (e : Endian) {h : IpHdr} (hzero : h.check = 0) (v : UInt16) :
    wordSum ({ h with check := v }.bytes e) = wordSum (h.bytes e) + natOfBe (e.store16 v) := by
  have hcheck : wordSum (e.store16 h.check) = 0 := by rw [hzero, wordSum_store16_zero]
  rw [← wordSum_pair (length_store16 ..), wordSum_header, wordSum_header, hcheck]
  dsimp only
  omega

/-- The sum of the words of the outer header other than its checksum: version and header length,
total length, time to live and protocol, and the two addresses. -/
def outerSum (upfIp gnbIp : UInt32) (n : UInt16) : ℕ :=
  0x4500 + (n.toNat + 44) % 65536 + 0x4011 + wordSum (Endian.little.store32 upfIp) +
    wordSum (Endian.little.store32 gnbIp)

theorem wordSum_bareHeader (upfIp gnbIp : UInt32) (n : UInt16) :
    wordSum ((bareHeader .little upfIp gnbIp n).bytes .little) = outerSum upfIp gnbIp n := by
  have hlen : wordSum (Endian.little.store16 (bareHeader .little upfIp gnbIp n).totLen) =
      (n.toNat + 44) % 65536 := by
    have h44 : (UInt16.ofNat (ipHdrLen + udpHdrLen + gtpuHdrLen + gtpuExtHdrLen)).toNat = 44 := by
      decide
    rw [wordSum_pair (length_store16 ..), bareHeader, store16_toBe16, natOfBe_u16ToBe,
      UInt16.toNat_add, h44, Nat.add_comm]
  have hzero := wordSum_store16_zero .little
  have hfirst : natOfBe [0x45, 0] = 0x4500 := by decide
  have hfifth : natOfBe [64, 17] = 0x4011 := by decide
  rw [wordSum_header, hlen, outerSum]
  simp only [bareHeader, hzero, hfirst, hfifth, Nat.add_zero]

/-- The header that is written has the swapped checksum in place of the zero. -/
theorem wordSum_outerHeader (upfIp gnbIp : UInt32) (n : UInt16) :
    wordSum ((outerHeader .little upfIp gnbIp n).bytes .little) = outerSum upfIp gnbIp n +
      natOfBe (Endian.little.store16 (ipChecksum .little (bareHeader .little upfIp gnbIp n))) := by
  rw [← wordSum_bareHeader, outerHeader, wordSum_setCheck .little rfl]

/-- A receiver's check of a header: the one's complement sum of its words has all bits set. -/
def ChecksumVerifies (hdr : Bytes) : Prop :=
  onesSum 65535 ((wordsBe hdr).map UInt16.toNat) = 0xFFFF

theorem onesSum_wordsBe (bs : Bytes) :
    onesSum 65535 ((wordsBe bs).map UInt16.toNat) = onesRep 65535 (wordSum bs) := by
  apply onesSum_eq (by decide)
  intro x hx
  obtain ⟨w, -, rfl⟩ := List.mem_map.mp hx
  exact toNat_le_max w

/-- **`ip_checksum` is the Internet checksum**: of the ten words of a header it takes the one's
complement sum, exactly, and returns the complement; written big-endian into a zero check word, it
makes the header one that a receiver accepts. -/
theorem ipChecksum_internet (e : Endian) (h : IpHdr) :
    (wordsBe (h.bytes e)).length = 10 ∧
    (ipChecksum e h).toNat = 65535 - onesSum 65535 ((wordsBe (h.bytes e)).map UInt16.toNat) ∧
    (foldedSum e h).toNat = onesSum 65535 ((wordsBe (h.bytes e)).map UInt16.toNat) ∧
    (foldedSum e h).toUInt16.toNat = (foldedSum e h).toNat ∧
    ipChecksum e h = ~~~(foldedSum e h).toUInt16 ∧
    (h.check = 0 → ∀ v, e.store16 v = u16ToBe (ipChecksum e h) →
      ChecksumVerifies ({ h with check := v }.bytes e)) := by
  refine ⟨?_, ?_, ?_, toNat_toUInt16_foldedSum e h, rfl, ?_⟩
  · rw [length_wordsBe, IpHdr.length_bytes]
    rfl
  · rw [toNat_ipChecksum, onesSum_wordsBe]
  · rw [toNat_foldedSum, onesSum_wordsBe]
  · intro hzero v hv
    rw [ChecksumVerifies, onesSum_wordsBe, wordSum_setCheck e hzero, hv, natOfBe_u16ToBe,
      toNat_ipChecksum]
    exact onesRep_add_complement (by decide) _

/-- A header of zeros, whose sum is zero and whose checksum has all bits set. -/
theorem ipChecksum_internet_zero :
    let h : IpHdr := ⟨0, 0, 0, 0, 0, 0, 0, 0, 0, 0⟩
    ipChecksum .little h = 0xFFFF ∧
      ChecksumVerifies ({ h with check := 0xFFFF }.bytes .little) :=
  ⟨by decide, (ipChecksum_internet .little _).2.2.2.2.2 rfl 0xFFFF (by decide)⟩

/-- The outer IP header of a frame. -/
def outerIp (f : Bytes) : Bytes := (f.drop ethHdrLen).take ipHdrLen

/-- Swapping the bytes of the complement of a sum makes the total a multiple of 65535 exactly when
the two bytes are the same, that is, when the sum is a multiple of 257. -/
theorem swapped_complement {S c : ℕ} (hS : 0 < S) (hc : c = 65535 - onesRep 65535 S) :
    (S + (c % 256 * 256 + c / 256)) % 65535 = 0 ↔ S % 257 = 0 := by
  obtain ⟨n, rfl⟩ : ∃ n, S = n + 1 := ⟨S - 1, by omega⟩
  rw [onesRep_succ] at hc
  omega

theorem outerHeader_verifies_iff (upfIp gnbIp : UInt32) (n : UInt16) :
    ChecksumVerifies ((outerHeader .little upfIp gnbIp n).bytes .little) ↔
      outerSum upfIp gnbIp n % 257 = 0 := by
  have hpos : 0 < outerSum upfIp gnbIp n := by
    rw [outerSum]
    omega
  have hcheck := toNat_ipChecksum .little (bareHeader .little upfIp gnbIp n)
  rw [wordSum_bareHeader] at hcheck
  rw [ChecksumVerifies, onesSum_wordsBe, wordSum_outerHeader, natOfBe_store16_little]
  rw [onesRep_eq_max_iff (by decide) (by omega)]
  exact swapped_complement hpos hcheck

end Xdp

/-- The words of the outer header that a frame is given, but for the checksum, sum up to a multiple
of 257. -/
def SumOf257 (m : Maps) (f : Bytes) : Prop :=
  ∀ t session tunnel n, downlinkMatch .little f m = some (t, session) →
    downlinkTunnel m session = some tunnel → readBe16 .little f (ethHdrLen + 2) = some n →
      outerSum session.upfIp tunnel.1 n % 257 = 0

/-- **The outer header verifies exactly when its two checksum bytes are the same.** -/
theorem checksumVerifies_iff (x : XdpEnv) (f : Bytes) (m : Maps)
    (h : (tryN6Downlink .little x f m).1.redirected = true) :
    ChecksumVerifies (outerIp (tryN6Downlink .little x f m).1.frame) ↔ SumOf257 m f := by
  obtain ⟨t, session, tunnel, n, hm, htunnel, hn, hframe⟩ := downlink_frame h
  have hlen := length_of_downlinkMatch hm
  have hsrc : (f.take 6).length = 6 := by
    rw [List.length_take]
    omega
  have hip : outerIp (tryN6Downlink .little x f m).1.frame =
      (outerHeader .little session.upfIp tunnel.1 n).bytes .little := by
    obtain ⟨eth, ports, heth, -, heq⟩ := outerHeaders_eq .little (m.gwMac.get 1).size hsrc
      session.upfIp tunnel.1 tunnel.2 n
    rw [hframe, heq, outerIp, List.append_assoc, List.append_assoc]
    exact Frame.slice_append eth _ _ heth (IpHdr.length_bytes ..)
  rw [hip, outerHeader_verifies_iff]
  constructor
  · intro hsum t' session' tunnel' n' hm' htunnel' hn'
    obtain ⟨-, rfl⟩ := Prod.mk.inj (Option.some.inj (hm.symm.trans hm'))
    obtain rfl := Option.some.inj (htunnel.symm.trans htunnel')
    obtain rfl := Option.some.inj (hn.symm.trans hn')
    exact hsum
  · intro hsum
    exact hsum t session tunnel n hm htunnel hn

open SmfSim in
/-- A segment of 71 bytes for UE 1, whose header has the same byte twice as its checksum. -/
theorem checksumVerifies_iff_segment :
    ChecksumVerifies (outerIp (tryN6Downlink .little machine
      (ethernet ++ ipv4 6 server ue1 (tcpPorts ++ List.replicate 47 0))
      (Audit.after host boot [setup smfA 1, establish smfA 1 ue1]).maps).1.frame) := by
  refine (checksumVerifies_iff machine _ _ (by decide +kernel)).mpr ?_
  intro t session tunnel n hm htunnel hn
  have hsum : ((downlinkMatch .little
      (ethernet ++ ipv4 6 server ue1 (tcpPorts ++ List.replicate 47 0))
      (Audit.after host boot [setup smfA 1, establish smfA 1 ue1]).maps).bind fun p =>
        (downlinkTunnel (Audit.after host boot [setup smfA 1, establish smfA 1 ue1]).maps p.2).bind
          fun t => (readBe16 .little
            (ethernet ++ ipv4 6 server ue1 (tcpPorts ++ List.replicate 47 0)) (ethHdrLen + 2)).map
              fun n => outerSum p.2.upfIp t.1 n % 257) = some 0 := by
    decide +kernel
  rw [hm, Option.bind_some, htunnel, Option.bind_some, hn, Option.map_some] at hsum
  exact Option.some.inj hsum

open SmfSim in
/-- The segment of 24 bytes: its header sums up to 11985. -/
theorem not_checksumVerifies_segment :
    ¬ ((tryN6Downlink .little machine (downlinkFrame ue1)
        (Audit.after host boot [setup smfA 1, establish smfA 1 ue1]).maps).1.redirected = true →
      ChecksumVerifies (outerIp (tryN6Downlink .little machine (downlinkFrame ue1)
        (Audit.after host boot [setup smfA 1, establish smfA 1 ue1]).maps).1.frame)) := by
  intro h
  have hsum : onesSum 65535 ((wordsBe (outerIp (tryN6Downlink .little machine (downlinkFrame ue1)
      (Audit.after host boot [setup smfA 1, establish smfA 1 ue1]).maps).1.frame)).map
        UInt16.toNat) = 11985 := by
    decide +kernel
  have hverifies := hsum.symm.trans (h (by decide +kernel))
  omega

end UpfEdge
