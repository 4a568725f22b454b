import UpfEdge.Lib.Table
import UpfEdge.Lib.Words

/-!
# The types both planes share

The keys and values of the eBPF maps (`upf-edge-common`), with the addresses they are built from.
A rule key is one 64-bit word, the local SEID in the upper 48 bits and the rule id in the lower
16; `composeKey_toNat` says which number that is, and `composeKey_inj_seid` that two SEIDs below
`2 ^ 48` never share a key.
-/

namespace UpfEdge

open Lib

/-! ### Addresses -/

/-- `std::net::Ipv4Addr`, by its octets. -/
structure Ipv4Addr where
  a : UInt8
  b : UInt8
  c : UInt8
  d : UInt8
  deriving Repr

namespace Ipv4Addr

-- The instances for map keys compare fields and go through no equality of whole keys, so that
-- closed lookups can be evaluated.
instance : DecidableEq Ipv4Addr := fun x y =>
  decidable_of_iff (x.a = y.a ∧ x.b = y.b ∧ x.c = y.c ∧ x.d = y.d) (by
    cases x; cases y; simp)

def unspecified : Ipv4Addr := ⟨0, 0, 0, 0⟩

def octets (ip : Ipv4Addr) : Bytes := [ip.a, ip.b, ip.c, ip.d]

/-- `u32::from`. -/
def toU32 (ip : Ipv4Addr) : UInt32 := u32OfBe ip.octets

/-- `Display`. -/
def text (ip : Ipv4Addr) : String :=
  toString ip.a ++ "." ++ toString ip.b ++ "." ++ toString ip.c ++ "." ++ toString ip.d

end Ipv4Addr

/-- `std::net::SocketAddr`. -/
inductive SocketAddr where
  | v4 (ip : Ipv4Addr) (port : UInt16)
  | v6 (ip : BitVec 128) (port : UInt16) (flowinfo scopeId : UInt32)
  deriving DecidableEq, Repr

/-! ### Constants -/

/-- N3 interface, towards the gNB. -/
def ifaceAccess : UInt8 := 0
/-- N6 interface, towards the data network. -/
def ifaceCore : UInt8 := 1

def actionDrop : UInt8 := 0x01
def actionForw : UInt8 := 0x02
def actionBuff : UInt8 := 0x04

def gtpUdpPort : UInt16 := 2152

def maxPdrPerSession : ℕ := 8

/-! ### Session rows -/

structure SessionKey where
  ueIp : UInt32
  deriving Repr

instance : DecidableEq SessionKey := fun x y =>
  decidable_of_iff (x.ueIp = y.ueIp) (by cases x; cases y; simp)

/-- The key of a UE address: the address as a number, converted to network order. -/
def SessionKey.ofIp (e : Endian) (ip : Ipv4Addr) : SessionKey := ⟨e.toBe32 ip.toU32⟩

/-- A SESSION_MAP row.  `pdrIds` is the fixed-size array of the source. -/
structure SessionInfo where
  seid : UInt64
  teid : UInt32
  gnbIp : UInt32
  upfIp : UInt32
  pdrIds : Vector UInt32 maxPdrPerSession
  pdrCount : UInt8
  deriving DecidableEq, Repr

/-- The ids a row lists: both planes walk the first `min pdr_count 8` entries of the array. -/
def SessionInfo.listed (info : SessionInfo) : List UInt32 :=
  info.pdrIds.toList.take (min info.pdrCount.toNat maxPdrPerSession)

/-! ### Rule keys and rows -/

/-- `(seid << 16) | (id & 0xFFFF)`: the composition all three rule keys use. -/
def composeKey (seid : UInt64) (id : UInt32) : UInt64 :=
  (seid <<< 16) ||| (id.toUInt64 &&& 0xFFFF)

structure PdrKey where
  key : UInt64
  deriving Repr

instance : DecidableEq PdrKey := fun x y =>
  decidable_of_iff (x.key = y.key) (by cases x; cases y; simp)

def PdrKey.new (seid : UInt64) (pdrId : UInt32) : PdrKey := ⟨composeKey seid pdrId⟩

structure FarKey where
  key : UInt64
  deriving Repr

instance : DecidableEq FarKey := fun x y =>
  decidable_of_iff (x.key = y.key) (by cases x; cases y; simp)

def FarKey.new (seid : UInt64) (farId : UInt32) : FarKey := ⟨composeKey seid farId⟩

structure UrrKey where
  key : UInt64
  deriving Repr

instance : DecidableEq UrrKey := fun x y =>
  decidable_of_iff (x.key = y.key) (by cases x; cases y; simp)

def UrrKey.new (seid : UInt64) (urrId : UInt32) : UrrKey := ⟨composeKey seid urrId⟩

structure PdrValue where
  precedence : UInt32
  sourceInterface : UInt8
  ueIp : UInt32
  qfi : UInt8
  farId : UInt32
  qerId : UInt32
  urrId : UInt32
  outerHeaderRemoval : UInt8
  sdfProto : UInt8
  sdfSrcIp : UInt32
  sdfDstIp : UInt32
  sdfSrcPort : UInt16
  sdfDstPort : UInt16
  deriving DecidableEq, Repr

structure FarValue where
  applyAction : UInt8
  dstInterface : UInt8
  gnbIp : UInt32
  teid : UInt32
  upfN3Ip : UInt32
  deriving DecidableEq, Repr

structure UrrStats where
  ulBytes : UInt64 := 0
  ulPackets : UInt64 := 0
  dlBytes : UInt64 := 0
  dlPackets : UInt64 := 0
  deriving DecidableEq, Repr, Inhabited

structure SessionStats where
  rxBytes : UInt64
  rxPackets : UInt64
  txBytes : UInt64
  txPackets : UInt64
  deriving DecidableEq, Repr, Inhabited

structure MacAddr where
  addr : Bytes
  size : addr.length = 6
  deriving DecidableEq, Repr

/-- The row of a per-CPU map: one value for each CPU number. -/
abbrev PerCpu (V : Type) : Type := ℕ → V

/-! ### Key composition -/

theorem composeKey_toNat (seid : UInt64) (id : UInt32) :
    (composeKey seid id).toNat = seid.toNat % 2 ^ 48 * 65536 + id.toNat % 65536 := by
  have hshift : (seid <<< 16).toNat = 2 ^ 16 * (seid.toNat % 2 ^ 48) := by
    rw [UInt64.toNat_shiftLeft, show (16 : UInt64).toNat % 64 = 16 from rfl, Nat.shiftLeft_eq]
    omega
  have hmask : (id.toUInt64 &&& 0xFFFF).toNat = id.toNat % 65536 := by
    rw [UInt64.toNat_and, UInt32.toNat_toUInt64, show (0xFFFF : UInt64).toNat = 2 ^ 16 - 1 from rfl,
      Nat.and_two_pow_sub_one_eq_mod]
  unfold composeKey
  rw [UInt64.toNat_or, hshift, hmask,
    ← Nat.two_pow_add_eq_or_of_lt (Nat.mod_lt _ (by norm_num)) (seid.toNat % 2 ^ 48)]
  omega

/-- The SEID part of a rule key. -/
def seidPart (key : UInt64) : UInt64 := key >>> 16

theorem seidPart_composeKey (seid : UInt64) (id : UInt32) :
    (seidPart (composeKey seid id)).toNat = seid.toNat % 2 ^ 48 := by
  unfold seidPart
  rw [UInt64.toNat_shiftRight, show (16 : UInt64).toNat % 64 = 16 from rfl,
    Nat.shiftRight_eq_div_pow, composeKey_toNat]
  have : id.toNat % 65536 < 65536 := Nat.mod_lt _ (by norm_num)
  omega

theorem seidPart_composeKey_of_lt {seid : UInt64} (h : seid.toNat < 2 ^ 48) (id : UInt32) :
    seidPart (composeKey seid id) = seid := by
  apply UInt64.toNat_inj.mp
  rw [seidPart_composeKey, Nat.mod_eq_of_lt h]

/-- The id part of a rule key. -/
def idPart (key : UInt64) : UInt32 := (key &&& 0xFFFF).toUInt32

theorem idPart_composeKey (seid : UInt64) (id : UInt32) :
    (idPart (composeKey seid id)).toNat = id.toNat % 65536 := by
  unfold idPart
  rw [UInt64.toNat_toUInt32, UInt64.toNat_and, show (0xFFFF : UInt64).toNat = 2 ^ 16 - 1 from rfl,
    Nat.and_two_pow_sub_one_eq_mod, composeKey_toNat]
  omega

theorem idPart_composeKey_of_lt (seid : UInt64) {id : UInt32} (h : id.toNat < 65536) :
    idPart (composeKey seid id) = id := by
  apply UInt32.toNat_inj.mp
  rw [idPart_composeKey, Nat.mod_eq_of_lt h]

/-- The URR that the reporter takes the row of a URR_MAP key for. -/
def recoveredUrr (k : UrrKey) : UInt64 × UInt32 := (seidPart k.key, idPart k.key)

/-- Different keys are taken for different URRs. -/
theorem recoveredUrr_inj {k k' : UrrKey} (h : recoveredUrr k = recoveredUrr k') : k = k' := by
  obtain ⟨hseid, hid⟩ := Prod.mk.inj h
  have hhigh := congrArg UInt64.toNat hseid
  have hlow := congrArg UInt32.toNat hid
  simp only [seidPart, idPart, UInt64.toNat_shiftRight, UInt64.toNat_toUInt32, UInt64.toNat_and,
    show (16 : UInt64).toNat % 64 = 16 from rfl, show (0xFFFF : UInt64).toNat = 2 ^ 16 - 1 from rfl,
    Nat.shiftRight_eq_div_pow, Nat.and_two_pow_sub_one_eq_mod] at hhigh hlow
  cases k
  cases k'
  congr 1
  apply UInt64.toNat_inj.mp
  simp only at hhigh hlow
  omega

/-- Keys of two SEIDs below `2 ^ 48` are equal only when the SEIDs are. -/
theorem composeKey_inj_seid {s t : UInt64} {i j : UInt32} (hs : s.toNat < 2 ^ 48)
    (ht : t.toNat < 2 ^ 48) (h : composeKey s i = composeKey t j) : s = t := by
  rw [← seidPart_composeKey_of_lt hs i, h, seidPart_composeKey_of_lt ht]

theorem SessionKey.ofIp_inj (e : Endian) {ip ip' : Ipv4Addr}
    (h : SessionKey.ofIp e ip = SessionKey.ofIp e ip') : ip = ip' := by
  have h' : e.toBe32 (u32OfBe ip.octets) = e.toBe32 (u32OfBe ip'.octets) :=
    congrArg SessionKey.ueIp h
  rw [toBe32_ofBe e rfl, toBe32_ofBe e rfl] at h'
  obtain ⟨a, b, c, d⟩ := ip
  obtain ⟨a', b', c', d'⟩ := ip'
  obtain ⟨rfl, rfl, rfl, rfl, -⟩ : a = a' ∧ b = b' ∧ c = c' ∧ d = d' ∧ True := by
    simpa [Ipv4Addr.octets] using load32_inj e rfl rfl h'
  rfl

end UpfEdge
