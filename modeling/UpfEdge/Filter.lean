import UpfEdge.SmfSim
import UpfEdge.Xdp.Verdict

/-!
# SDF filters in the two planes

A filter is thirteen bytes on the wire: a protocol, two addresses and two ports.  `parse_sdf_filter`
makes numbers of them, the establishment handler a row of PDR_MAP, and `sdf_matches` compares that
row with what a program loads from a packet.  Addresses are converted to network order on the way
into the row and loaded raw, which compares the bytes (`toBe32_ofBe`).  Ports are loaded raw too and
not converted, so on a little-endian target a port is compared with its byte swap: the planes agree
on a filter exactly when no swap shows (`sameMeaning_iff`).
-/

namespace UpfEdge

open Lib Pfcp Server Xdp

/-! ### Filters and packets on the wire -/

/-- What a filter can name, as numbers on the wire. -/
structure Fields where
  proto : ℕ
  srcIp : ℕ
  dstIp : ℕ
  srcPort : ℕ
  dstPort : ℕ
  deriving DecidableEq, Repr

/-- The big-endian number in the `n` bytes at an offset. -/
def numberAt (bs : Bytes) (offset n : ℕ) : ℕ := natOfBe ((bs.drop offset).take n)

/-- The fields of an SDF Filter IE. -/
def filterFields (v : Bytes) : Fields where
  proto := numberAt v 0 1
  srcIp := numberAt v 1 4
  dstIp := numberAt v 5 4
  srcPort := numberAt v 9 2
  dstPort := numberAt v 11 2

/-- The fields of an IPv4 packet without options. -/
def packetFields (pkt : Bytes) : Fields where
  proto := numberAt pkt 9 1
  srcIp := numberAt pkt 12 4
  dstIp := numberAt pkt 16 4
  srcPort := numberAt pkt 20 2
  dstPort := numberAt pkt 22 2

/-- A filter admits a packet when every field it names is that of the packet. -/
def Fields.Admits (flt pkt : Fields) : Prop :=
  (flt.proto ≠ 0 → flt.proto = pkt.proto) ∧ (flt.srcIp ≠ 0 → flt.srcIp = pkt.srcIp) ∧
    (flt.dstIp ≠ 0 → flt.dstIp = pkt.dstIp) ∧ (flt.srcPort ≠ 0 → flt.srcPort = pkt.srcPort) ∧
    (flt.dstPort ≠ 0 → flt.dstPort = pkt.dstPort)

instance (flt pkt : Fields) : Decidable (flt.Admits pkt) :=
  inferInstanceAs (Decidable (_ ∧ _ ∧ _ ∧ _ ∧ _))

/-- TCP or UDP over an IPv4 header without options. -/
def PlainTransport (pkt : Bytes) : Prop :=
  pkt[0]? = some 0x45 ∧ (pkt[9]? = some 6 ∨ pkt[9]? = some 17)

instance (pkt : Bytes) : Decidable (PlainTransport pkt) := inferInstanceAs (Decidable (_ ∧ _))

/-- For a frame that reaches `select_far`: the five-tuple it is called with, and the packet the
program forwards, on N3 without the outer headers. -/
def Xdp.Frame.selectArgs (e : Endian) (m : Maps) : Frame → Option (FiveTuple × Bytes)
  | .n3 _ f => (uplinkMatch e f m).bind fun (p, session) =>
      if session.pdrCount > 0 then some (p.tuple, f.drop p.outerTotal) else none
  | .n6 _ f => (downlinkMatch e f m).bind fun (t, session) =>
      if session.pdrCount > 0 then some (t, f.drop ethHdrLen) else none

/-- The row a Create PDR with the filter gets and the bytes of the filter say the same of every
packet that a frame brings to `select_far`, whatever the maps hold. -/
def SameMeaning (v : Bytes) (flt : SdfFilter) : Prop :=
  ∀ (pdr : ParsedPDR) (ueIp : Ipv4Addr) (m : Maps) (fr : Frame) (t : FiveTuple) (pkt : Bytes),
    pdr.sdfFilter = some flt → fr.selectArgs .little m = some (t, pkt) → PlainTransport pkt →
    (sdfMatches (pdrValue .little ueIp pdr) t = true ↔ (filterFields v).Admits (packetFields pkt))

/-! ### What the programs load -/

/-- The five-tuple the programs load from a packet that has ports. -/
def loadedTuple (e : Endian) (pkt : Bytes) : FiveTuple where
  proto := (pkt.drop 9).headD 0
  srcIp := e.load32 ((pkt.drop 12).take 4)
  dstIp := e.load32 ((pkt.drop 16).take 4)
  srcPort := e.load16 ((pkt.drop 20).take 2)
  dstPort := e.load16 ((pkt.drop 22).take 2)

section Loads

variable {e : Endian} {f : Bytes}

/-- The downlink program loads the five-tuple behind the Ethernet header. -/
theorem parseDownlink_loads {t : FiveTuple} (h : parseDownlink e f = some t) :
    24 ≤ (f.drop ethHdrLen).length ∧ t = loadedTuple e (f.drop ethHdrLen) := by
  simp only [parseDownlink, Option.bind_eq_bind, Option.bind_eq_some_iff] at h
  obtain ⟨_, -, _, -, proto, hproto, src, hsrc, dst, hdst, sp, hsp, dp, hdp, heq⟩ := h
  obtain ⟨hlen, rfl⟩ := readU16_eq_some ethHdrLen 22 hdp
  obtain ⟨-, rfl⟩ := readU16_eq_some ethHdrLen 20 hsp
  obtain rfl := readU32_eq_some ethHdrLen 16 hdst
  obtain rfl := readU32_eq_some ethHdrLen 12 hsrc
  obtain rfl := readU8_eq_some ethHdrLen 9 hproto
  refine ⟨?_, (Option.some.inj heq).symm⟩
  rw [List.length_drop]
  omega

/-- The uplink program loads the five-tuple of a packet with ports behind the outer headers. -/
theorem parseUplink_loads {p : UplinkPacket} (h : parseUplink e f = some p)
    (hpkt : PlainTransport (f.drop p.outerTotal)) :
    24 ≤ (f.drop p.outerTotal).length ∧ p.tuple = loadedTuple e (f.drop p.outerTotal) := by
  obtain ⟨hproto, hsrc, hdst, hports⟩ := parseUplink_reads h
  obtain ⟨n, proto, src, dst, sp, dp⟩ := p
  simp only at hproto hsrc hdst hports hpkt ⊢
  obtain rfl := readU8_eq_some n 9 hproto
  have hhead : ((f.drop n).drop 9).headD 0 = 6 ∨ ((f.drop n).drop 9).headD 0 = 17 := by
    rw [List.headD_eq_head?_getD, List.head?_drop]
    rcases hpkt.2 with h6 | h17
    · exact .inl (by rw [h6]; rfl)
    · exact .inr (by rw [h17]; rfl)
  rw [innerPorts, if_pos hhead] at hports
  simp only [Option.bind_eq_bind, Option.bind_eq_some_iff] at hports
  obtain ⟨_, hsp, _, hdp, hpair⟩ := hports
  obtain ⟨rfl, rfl⟩ := Prod.mk.inj (Option.some.inj hpair)
  obtain ⟨hlen, rfl⟩ := readU16_eq_some n 22 hdp
  obtain ⟨-, rfl⟩ := readU16_eq_some n 20 hsp
  obtain rfl := readU32_eq_some n 16 hdst
  obtain rfl := readU32_eq_some n 12 hsrc
  refine ⟨?_, rfl⟩
  rw [List.length_drop]
  omega

/-- A packet with ports gets to `select_far` as loaded. -/
theorem selectArgs_loads {m : Maps} {fr : Frame} {t : FiveTuple} {pkt : Bytes}
    (h : fr.selectArgs e m = some (t, pkt)) (hpkt : PlainTransport pkt) :
    24 ≤ pkt.length ∧ t = loadedTuple e pkt := by
  cases fr with
  | n3 x f =>
    obtain ⟨⟨p, session⟩, hm, hargs⟩ := Option.bind_eq_some_iff.mp h
    simp only at hargs
    split_ifs at hargs
    obtain ⟨rfl, rfl⟩ := Prod.mk.inj (Option.some.inj hargs)
    exact parseUplink_loads (uplinkMatch_row hm).1 hpkt
  | n6 x f =>
    obtain ⟨⟨t', session⟩, hm, hargs⟩ := Option.bind_eq_some_iff.mp h
    simp only at hargs
    split_ifs at hargs
    obtain ⟨rfl, rfl⟩ := Prod.mk.inj (Option.some.inj hargs)
    exact parseDownlink_loads (downlinkMatch_row hm).1

end Loads

/-! ### Comparing fields -/

theorem sdfMatches_iff (pdr : PdrValue) (t : FiveTuple) : sdfMatches pdr t = true ↔
    (pdr.sdfProto ≠ 0 → pdr.sdfProto = t.proto) ∧ (pdr.sdfSrcIp ≠ 0 → pdr.sdfSrcIp = t.srcIp) ∧
      (pdr.sdfDstIp ≠ 0 → pdr.sdfDstIp = t.dstIp) ∧
      (pdr.sdfSrcPort ≠ 0 → pdr.sdfSrcPort = t.srcPort) ∧
      (pdr.sdfDstPort ≠ 0 → pdr.sdfDstPort = t.dstPort) := by
  unfold sdfMatches
  simp only [ite_eq_iff, Bool.false_eq_true, and_false, false_or, and_true, not_and, not_not]

/-- The bytes of a filter that parses. -/
theorem parseSdfFilter_bytes {v : Bytes} {flt : SdfFilter} (h : parseSdfFilter v = .ok flt) :
    ∃ p a₁ a₂ a₃ a₄ b₁ b₂ b₃ b₄ x₁ x₂ y₁ y₂ rest,
      v = p :: a₁ :: a₂ :: a₃ :: a₄ :: b₁ :: b₂ :: b₃ :: b₄ :: x₁ :: x₂ :: y₁ :: y₂ :: rest ∧
      flt = ⟨p, ⟨a₁, a₂, a₃, a₄⟩, ⟨b₁, b₂, b₃, b₄⟩, u16OfBe [x₁, x₂], u16OfBe [y₁, y₂]⟩ := by
  unfold parseSdfFilter at h
  split_ifs at h with hlen
  obtain ⟨p, a₁, a₂, a₃, a₄, b₁, b₂, b₃, b₄, x₁, x₂, y₁, y₂, rest, rfl⟩ :
      ∃ p a₁ a₂ a₃ a₄ b₁ b₂ b₃ b₄ x₁ x₂ y₁ y₂ rest,
        v = p :: a₁ :: a₂ :: a₃ :: a₄ :: b₁ :: b₂ :: b₃ :: b₄ :: x₁ :: x₂ :: y₁ :: y₂ :: rest := by
    rcases v with _ | ⟨p, _ | ⟨a₁, _ | ⟨a₂, _ | ⟨a₃, _ | ⟨a₄, _ | ⟨b₁, _ | ⟨b₂, _ | ⟨b₃, _ | ⟨b₄,
      _ | ⟨x₁, _ | ⟨x₂, _ | ⟨y₁, _ | ⟨y₂, rest⟩⟩⟩⟩⟩⟩⟩⟩⟩⟩⟩⟩⟩
    all_goals first | exact ⟨_, _, _, _, _, _, _, _, _, _, _, _, _, _, rfl⟩ | simp at hlen
  exact ⟨_, _, _, _, _, _, _, _, _, _, _, _, _, _, rfl, (Except.ok.inj h).symm⟩

/-- The fields of a packet with the bytes of its ports swapped. -/
def swappedFields (pkt : Bytes) : Fields :=
  { packetFields pkt with
    srcPort := natOfLe ((pkt.drop 20).take 2)
    dstPort := natOfLe ((pkt.drop 22).take 2) }

theorem headD_inj {bs bs' : Bytes} (h1 : bs.length = 1) (h1' : bs'.length = 1)
    (h : bs.headD 0 = bs'.headD 0) : bs = bs' := by
  obtain ⟨b, rfl⟩ := List.length_eq_one_iff.mp h1
  obtain ⟨b', rfl⟩ := List.length_eq_one_iff.mp h1'
  exact congrArg (fun b => [b]) h

/-- What `sdf_matches` compares on a little-endian target. -/
theorem sdfMatches_iff_admits {v pkt : Bytes} {flt : SdfFilter} {pdr : ParsedPDR}
    (hflt : parseSdfFilter v = .ok flt) (hpdr : pdr.sdfFilter = some flt) (ueIp : Ipv4Addr)
    (hlen : 24 ≤ pkt.length) :
    sdfMatches (pdrValue .little ueIp pdr) (loadedTuple .little pkt) = true ↔
      (filterFields v).Admits (swappedFields pkt) := by
  obtain ⟨p, a₁, a₂, a₃, a₄, b₁, b₂, b₃, b₄, x₁, x₂, y₁, y₂, rest, rfl, rfl⟩ :=
    parseSdfFilter_bytes hflt
  rw [sdfMatches_iff]
  simp only [pdrValue, hpdr, Option.map_some, Option.getD_some]
  refine and_congr ?_ (and_congr ?_ (and_congr ?_ (and_congr ?_ ?_)))
  · have hhead : (pkt.drop 9).headD 0 = ((pkt.drop 9).take 1).headD 0 := by
      cases pkt.drop 9 <;> rfl
    have hp : ([p] : Bytes).length = 1 := rfl
    rw [loadedTuple, hhead]
    exact load_compares (·.headD 0) headD_inj rfl hp (length_slice (by omega))
  · rw [Ipv4Addr.toU32, toBe32_ofBe .little rfl]
    exact load_compares Endian.little.load32 (load32_inj .little) (by decide) rfl
      (length_slice (by omega))
  · rw [Ipv4Addr.toU32, toBe32_ofBe .little rfl]
    exact load_compares Endian.little.load32 (load32_inj .little) (by decide) rfl
      (length_slice (by omega))
  -- a raw load of a port is the number of its bytes read backwards
  · exact load_compares Endian.big.load16 (load16_inj .big) (by decide) rfl
      (List.length_reverse.trans (length_slice (by omega)))
  · exact load_compares Endian.big.load16 (load16_inj .big) (by decide) rfl
      (List.length_reverse.trans (length_slice (by omega)))

/-! ### When the planes agree -/

section Agreement

variable {v : Bytes} {flt : SdfFilter}

/-- A packet of a protocol with given addresses and ports. -/
def carrier (proto : UInt8) (fields : Bytes) : Bytes :=
  [0x45, 0, 0, 24, 0, 0, 0, 0, 64, proto, 0, 0] ++ fields

/-- Maps with one session, of a UE with the given address. -/
def oneSession (ueIp : UInt32) (session : SessionInfo) : Maps :=
  { Maps.empty SmfSim.boot.ifIndex SmfSim.boot.gwMac with
    sessionMap := ⟨Table.insert ∅ ⟨ueIp⟩ session,
      BoundedTable.length_keys_insert_le (Nat.zero_le _) (.inr (Nat.zero_lt_succ _))⟩ }

/-- Every packet reaches `select_far` in some frame, when there is a session for it. -/
theorem selectArgs_carrier (proto a₁ a₂ a₃ a₄ b₁ b₂ b₃ b₄ x₁ x₂ y₁ y₂ : UInt8) :
    ∃ m fr, Frame.selectArgs .little m fr =
      some (loadedTuple .little (carrier proto [a₁, a₂, a₃, a₄, b₁, b₂, b₃, b₄, x₁, x₂, y₁, y₂]),
        carrier proto [a₁, a₂, a₃, a₄, b₁, b₂, b₃, b₄, x₁, x₂, y₁, y₂]) := by
  set pkt := carrier proto [a₁, a₂, a₃, a₄, b₁, b₂, b₃, b₄, x₁, x₂, y₁, y₂]
  let session := sessionInfo .little SmfSim.boot.n3Addr 1 1000 ⟨0, SmfSim.gnb, 2152⟩ [{}]
  refine ⟨oneSession (Endian.little.load32 [b₁, b₂, b₃, b₄]) session,
    .n6 SmfSim.machine (SmfSim.ethernet ++ pkt), ?_⟩
  have hparse :
      parseDownlink .little (SmfSim.ethernet ++ pkt) = some (loadedTuple .little pkt) := by
    have hread : readU16 .little (SmfSim.ethernet ++ pkt) 12 = some (Endian.little.load16 [8, 0]) :=
      rfl
    have heth : readBe16 .little (SmfSim.ethernet ++ pkt) 12 = some 0x0800 := by
      rw [readBe16, hread]
      decide
    unfold parseDownlink
    rw [heth]
    rfl
  have hrow : (oneSession (Endian.little.load32 [b₁, b₂, b₃, b₄]) session).sessionMap.lookup
      ⟨(loadedTuple .little pkt).dstIp⟩ = some session :=
    (Table.lookup_insert_ite _ _ _ _).trans (if_pos rfl)
  simp only [Frame.selectArgs, downlinkMatch, hparse, Option.bind_some, hrow, Option.map_some]
  rfl

/-- A number of two bytes that is zero or its own swap has equal bytes. -/
theorem eq_of_swap {x y : UInt8} (h : natOfBe [x, y] ≠ 0 → natOfBe [x, y] = natOfLe [x, y]) :
    x = y := by
  have hbe : natOfBe [x, y] = x.toNat * 256 + y.toNat := by simp [natOfBe]
  have hle : natOfLe [x, y] = y.toNat * 256 + x.toNat := by simp [natOfLe, natOfBe]
  rw [hbe, hle] at h
  exact UInt8.toNat_inj.mp (by omega)

/-- A number of equal bytes compares with a swapped number as with the number itself. -/
theorem eq_natOfLe_iff {x : UInt8} {bs : Bytes} (hbs : bs.length = 2) :
    natOfBe [x, x] = natOfLe bs ↔ natOfBe [x, x] = natOfBe bs := by
  constructor
  · intro h
    have hbytes : [x, x] = bs := loadNat_inj .little hbs.symm h
    rw [hbytes]
  · intro h
    have hbytes : [x, x] = bs := natOfBe_inj hbs.symm h
    rw [← hbytes]
    rfl

theorem PlainTransport.proto {pkt : Bytes} (h : PlainTransport pkt) :
    (packetFields pkt).proto = 6 ∨ (packetFields pkt).proto = 17 := by
  have hnumber : ∀ {b : UInt8}, pkt[9]? = some b → (packetFields pkt).proto = b.toNat := by
    intro b hb
    have hhead : (pkt.drop 9).take 1 = [b] := by
      rw [List.take_one, List.head?_drop, hb]
      rfl
    change natOfBe ((pkt.drop 9).take 1) = b.toNat
    rw [hhead]
    simp [natOfBe]
  rcases h.2 with h6 | h17
  · exact .inl (hnumber h6)
  · exact .inr (hnumber h17)

/-- A filter of another protocol admits nothing that has ports, in either plane. -/
theorem sameMeaning_of_proto (h : parseSdfFilter v = .ok flt)
    (hproto : flt.proto ≠ 0 ∧ flt.proto ≠ 6 ∧ flt.proto ≠ 17) : SameMeaning v flt := by
  intro pdr ueIp m fr t pkt hpdr hargs hpkt
  obtain ⟨hlen, rfl⟩ := selectArgs_loads hargs hpkt
  rw [sdfMatches_iff_admits h hpdr ueIp hlen]
  obtain ⟨p, a₁, a₂, a₃, a₄, b₁, b₂, b₃, b₄, x₁, x₂, y₁, y₂, rest, rfl, rfl⟩ :=
    parseSdfFilter_bytes h
  have hp : (filterFields (p :: a₁ :: a₂ :: a₃ :: a₄ :: b₁ :: b₂ :: b₃ :: b₄ :: x₁ :: x₂ :: y₁ ::
      y₂ :: rest)).proto = p.toNat := Nat.zero_add _
  obtain ⟨h0, h6, h17⟩ := hproto
  have hne : p.toNat ≠ 0 ∧ p.toNat ≠ (packetFields pkt).proto := by
    refine ⟨fun heq => h0 (UInt8.toNat_inj.mp heq), fun heq => ?_⟩
    rcases hpkt.proto with hproto | hproto
    · exact h6 (UInt8.toNat_inj.mp (heq.trans hproto))
    · exact h17 (UInt8.toNat_inj.mp (heq.trans hproto))
  rw [← hp] at hne
  exact iff_of_false (fun hadm => hne.2 (hadm.1 hne.1)) (fun hadm => hne.2 (hadm.1 hne.1))

/-- Ports that are their own swap are compared as they should be. -/
theorem sameMeaning_of_ports (h : parseSdfFilter v = .ok flt) (hx : v[9]? = v[10]?)
    (hy : v[11]? = v[12]?) : SameMeaning v flt := by
  intro pdr ueIp m fr t pkt hpdr hargs hpkt
  obtain ⟨hlen, rfl⟩ := selectArgs_loads hargs hpkt
  rw [sdfMatches_iff_admits h hpdr ueIp hlen]
  obtain ⟨p, a₁, a₂, a₃, a₄, b₁, b₂, b₃, b₄, x₁, x₂, y₁, y₂, rest, rfl, rfl⟩ :=
    parseSdfFilter_bytes h
  obtain rfl := Option.some.inj hx
  obtain rfl := Option.some.inj hy
  have hsp : ((pkt.drop 20).take 2).length = 2 := length_slice (by omega)
  have hdp : ((pkt.drop 22).take 2).length = 2 := length_slice (by omega)
  exact and_congr Iff.rfl (and_congr Iff.rfl (and_congr Iff.rfl (and_congr
    (imp_congr Iff.rfl (eq_natOfLe_iff hsp)) (imp_congr Iff.rfl (eq_natOfLe_iff hdp)))))

/-- A packet that carries what the filter names, as TCP where the filter names no protocol, shows
every port that is not its own swap. -/
theorem ports_of_sameMeaning (h : parseSdfFilter v = .ok flt) (hsame : SameMeaning v flt)
    (hproto : flt.proto = 0 ∨ flt.proto = 6 ∨ flt.proto = 17) :
    v[9]? = v[10]? ∧ v[11]? = v[12]? := by
  obtain ⟨proto, htransport, hnamed⟩ :
      ∃ proto : UInt8, (proto = 6 ∨ proto = 17) ∧ (flt.proto ≠ 0 → flt.proto = proto) := by
    rcases hproto with h0 | htransport
    · exact ⟨6, .inl rfl, fun hne => absurd h0 hne⟩
    · exact ⟨flt.proto, htransport, fun _ => rfl⟩
  have hpdr : ({ sdfFilter := some flt } : ParsedPDR).sdfFilter = some flt := rfl
  obtain ⟨p, a₁, a₂, a₃, a₄, b₁, b₂, b₃, b₄, x₁, x₂, y₁, y₂, rest, rfl, hflt⟩ :=
    parseSdfFilter_bytes h
  obtain ⟨m, fr, hargs⟩ := selectArgs_carrier proto a₁ a₂ a₃ a₄ b₁ b₂ b₃ b₄ x₁ x₂ y₁ y₂
  set pkt := carrier proto [a₁, a₂, a₃, a₄, b₁, b₂, b₃, b₄, x₁, x₂, y₁, y₂]
  have hpkt : PlainTransport pkt := ⟨rfl, htransport.imp (congrArg some) (congrArg some)⟩
  have hadmits : (filterFields (p :: a₁ :: a₂ :: a₃ :: a₄ :: b₁ :: b₂ :: b₃ :: b₄ :: x₁ :: x₂ ::
      y₁ :: y₂ :: rest)).Admits (packetFields pkt) := by
    refine ⟨fun hp => ?_, fun _ => rfl, fun _ => rfl, fun _ => rfl, fun _ => rfl⟩
    have hp0 : flt.proto ≠ 0 := by
      rw [hflt]
      rintro rfl
      exact hp rfl
    have hp' := hnamed hp0
    rw [hflt] at hp'
    exact congrArg (fun b => natOfBe [b]) hp'
  have hmatch := (hsame _ SmfSim.ue1 m fr _ pkt hpdr hargs hpkt).mpr hadmits
  obtain ⟨-, -, -, hsp, hdp⟩ :=
    (sdfMatches_iff_admits h hpdr SmfSim.ue1 (selectArgs_loads hargs hpkt).1).mp hmatch
  exact ⟨congrArg some (eq_of_swap hsp), congrArg some (eq_of_swap hdp)⟩

/-- **When the planes agree on a filter.**  Either it names a protocol other than TCP and UDP, or
the two bytes of each of its ports are equal. -/
theorem sameMeaning_iff (h : parseSdfFilter v = .ok flt) : SameMeaning v flt ↔
    (flt.proto ≠ 0 ∧ flt.proto ≠ 6 ∧ flt.proto ≠ 17) ∨ (v[9]? = v[10]? ∧ v[11]? = v[12]?) := by
  constructor
  · intro hsame
    by_cases hproto : flt.proto ≠ 0 ∧ flt.proto ≠ 6 ∧ flt.proto ≠ 17
    · exact .inl hproto
    · exact .inr (ports_of_sameMeaning h hsame (by tauto))
  · rintro (hproto | ⟨hx, hy⟩)
    · exact sameMeaning_of_proto h hproto
    · exact sameMeaning_of_ports h hx hy

end Agreement

open SmfSim in
/-- The planes agree on the filter of the simulator, which names TCP and nothing else. -/
theorem sameMeaning_iff_tcp :
    SameMeaning (sdfFilterBytes ⟨6, .unspecified, .unspecified, 0, 0⟩)
      ⟨6, .unspecified, .unspecified, 0, 0⟩ := by
  have hparse : parseSdfFilter (sdfFilterBytes ⟨6, .unspecified, .unspecified, 0, 0⟩) =
      .ok ⟨6, .unspecified, .unspecified, 0, 0⟩ := by decide
  exact (sameMeaning_iff hparse).mpr (.inr ⟨by decide, by decide⟩)

open SmfSim in
/-- A filter for TCP to port 80, and a segment of UE 1 to port 80 that its row does not match. -/
theorem not_sameMeaning_http :
    ¬ ∀ (v : Bytes) (flt : SdfFilter), parseSdfFilter v = .ok flt → SameMeaning v flt := by
  intro hall
  have hsame := hall (sdfFilterBytes ⟨6, .unspecified, .unspecified, 0, 80⟩)
    ⟨6, .unspecified, .unspecified, 0, 80⟩ (by decide)
  have hadmits := hsame { pdrId := 1, sdfFilter := some ⟨6, .unspecified, .unspecified, 0, 80⟩ } ue1
    (Audit.after host boot [setup smfA 1, establish smfA 1 ue1]).world.maps
    (.n3 machine (uplinkFrame ue1)) (loadedTuple .little (ipv4 6 ue1 server tcpPorts))
    (ipv4 6 ue1 server tcpPorts) rfl (by decide +kernel) (by decide)
  revert hadmits
  decide

end UpfEdge
