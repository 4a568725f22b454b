import UpfEdge.Common

/-!
# PFCP constants and the message header

The numbers of `pfcp-common/src/types.rs` that the modelled functions read, and
`PfcpHeader::encode` and `PfcpHeader::decode` of `header.rs`.  A decoder indexes its input only
under the length test that the source makes before it, and the type of the index carries that test.
-/

namespace UpfEdge.Pfcp

open Lib

/-! ### Message types -/

def pfcpHeartbeatReq : UInt8 := 1
def pfcpHeartbeatRsp : UInt8 := 2
def pfcpAssociationSetupReq : UInt8 := 5
def pfcpAssociationSetupRsp : UInt8 := 6
def pfcpSessionEstablishmentReq : UInt8 := 50
def pfcpSessionEstablishmentRsp : UInt8 := 51
def pfcpSessionModificationReq : UInt8 := 52
def pfcpSessionModificationRsp : UInt8 := 53
def pfcpSessionDeletionReq : UInt8 := 54
def pfcpSessionDeletionRsp : UInt8 := 55
def pfcpSessionReportReq : UInt8 := 56
def pfcpSessionReportRsp : UInt8 := 57

/-! ### IE types -/

def pfcpIeCreatePdr : UInt16 := 1
def pfcpIePdi : UInt16 := 2
def pfcpIeCreateFar : UInt16 := 3
def pfcpIeForwardingParameters : UInt16 := 4
def pfcpIeCreateUrr : UInt16 := 6
def pfcpIeCreateQer : UInt16 := 7
def pfcpIeCreatedPdr : UInt16 := 8
def pfcpIeUpdatePdr : UInt16 := 9
def pfcpIeUpdateFar : UInt16 := 10
def pfcpIeUpdateForwardingParameters : UInt16 := 11
def pfcpIeUpdateUrr : UInt16 := 13
def pfcpIeRemovePdr : UInt16 := 15
def pfcpIeRemoveFar : UInt16 := 16
def pfcpIeCause : UInt16 := 19
def pfcpIeSourceInterface : UInt16 := 20
def pfcpIeFteid : UInt16 := 21
def pfcpIeSdfFilter : UInt16 := 23
def pfcpIePrecedence : UInt16 := 29
def pfcpIeVolumeThreshold : UInt16 := 31
def pfcpIeReportingTriggers : UInt16 := 37
def pfcpIeReportType : UInt16 := 39
def pfcpIeDestinationInterface : UInt16 := 42
def pfcpIeUpFunctionFeatures : UInt16 := 43
def pfcpIeApplyAction : UInt16 := 44
def pfcpIePdrId : UInt16 := 56
def pfcpIeFseid : UInt16 := 57
def pfcpIeNodeId : UInt16 := 60
def pfcpIeMeasurementMethod : UInt16 := 62
def pfcpIeUsageReportTrigger : UInt16 := 63
def pfcpIeMeasurementPeriod : UInt16 := 64
def pfcpIeVolumeMeasurement : UInt16 := 66
def pfcpIeUsageReportInSessRptReq : UInt16 := 80
def pfcpIeUrrId : UInt16 := 81
def pfcpIeOuterHeaderCreation : UInt16 := 84
def pfcpIeCreateBar : UInt16 := 85
def pfcpIeUeIpAddress : UInt16 := 93
def pfcpIeOuterHeaderRemoval : UInt16 := 95
def pfcpIeRecoveryTimeStamp : UInt16 := 96
def pfcpIeUrSeqn : UInt16 := 104
def pfcpIeFarId : UInt16 := 108

/-! ### Values inside IEs -/

def interfaceAccess : UInt8 := 0
def interfaceCore : UInt8 := 1

def causeRequestAccepted : UInt8 := 1

def reportTypeUsar : UInt8 := 0x02
def usageReportTriggerPerio : UInt8 := 0x01
def usageReportTriggerVolth : UInt8 := 0x02
def volumeMeasurementTovol : UInt8 := 0x01
def volumeMeasurementUlvol : UInt8 := 0x02
def volumeMeasurementDlvol : UInt8 := 0x04
def reportingTriggerPerio : UInt8 := 0x01
def reportingTriggerVolth : UInt8 := 0x02
def volumeThresholdTovol : UInt8 := 0x01

/-- `is_grouped_ie`. -/
def isGroupedIe (ieType : UInt16) : Bool :=
  ieType ∈ [pfcpIeCreatePdr, pfcpIeCreateFar, pfcpIeCreatedPdr, pfcpIeUpdatePdr, pfcpIeUpdateFar,
    pfcpIeRemovePdr, pfcpIeRemoveFar, pfcpIeCreateUrr, pfcpIeCreateQer, pfcpIeCreateBar, pfcpIePdi]

/-! ### Errors -/

inductive PfcpError where
  | bufferTooShort (need had : ℕ)
  | unsupportedVersion (version : UInt8)
  | ieParseError (ieType : UInt16) (reason : String)
  deriving DecidableEq, Repr

/-- `Display`. -/
def PfcpError.text : PfcpError → String
  | .bufferTooShort need had => "Buffer too short: need " ++ toString need ++ ", have " ++
      toString had
  | .unsupportedVersion v => "Unsupported PFCP version: " ++ toString v
  | .ieParseError t reason => "IE " ++ toString t ++ " parse error: " ++ reason

/-! ### The header -/

def pfcpSFlag : UInt8 := 0b00000001
def pfcpMpFlag : UInt8 := 0b00000010
def pfcpFoFlag : UInt8 := 0b00000100
def pfcpVersion : UInt8 := 1

structure PfcpHeader where
  version : UInt8
  sFlag : Bool
  mpFlag : Bool
  foFlag : Bool
  msgType : UInt8
  length : UInt16
  seid : Option UInt64
  seqNum : UInt32
  priority : UInt8
  deriving DecidableEq, Repr

namespace PfcpHeader

def newNodeMsg (msgType : UInt8) (seqNum : UInt32) : PfcpHeader where
  version := pfcpVersion
  sFlag := false
  mpFlag := false
  foFlag := false
  msgType := msgType
  length := 0
  seid := none
  seqNum := seqNum
  priority := 0

def newSessionMsg (msgType : UInt8) (seid : UInt64) (seqNum : UInt32) : PfcpHeader where
  version := pfcpVersion
  sFlag := true
  mpFlag := false
  foFlag := false
  msgType := msgType
  length := 0
  seid := some seid
  seqNum := seqNum
  priority := 0

def encode (h : PfcpHeader) : Bytes :=
  let flags := (h.version &&& 0x07) <<< 5
  let flags := if h.foFlag then flags ||| pfcpFoFlag else flags
  let flags := if h.mpFlag then flags ||| pfcpMpFlag else flags
  let flags := if h.sFlag then flags ||| pfcpSFlag else flags
  [flags, h.msgType] ++ u16ToBe h.length ++
    (if h.sFlag then u64ToBe (h.seid.getD 0) else []) ++
    [(h.seqNum >>> 16).toUInt8, (h.seqNum >>> 8).toUInt8, h.seqNum.toUInt8,
      if h.mpFlag then h.priority <<< 4 else 0]

/-- The part of `decode` after the SEID field: sequence number, priority, and the body behind
them.  `pos` is the offset the source keeps in a variable. -/
def decodeTail (buf : Bytes) (pos : ℕ) (hpos : pos + 4 ≤ buf.length) (sFlag mpFlag foFlag : Bool)
    (version msgType : UInt8) (length : UInt16) (seid : Option UInt64) : PfcpHeader × Bytes :=
  ({ version, sFlag, mpFlag, foFlag, msgType, length, seid
     seqNum := u32OfBe [0, buf[pos], buf[pos + 1], buf[pos + 2]]
     priority := if mpFlag then buf[pos + 3] >>> 4 else 0 }, buf.drop (pos + 4))

def decode (buf : Bytes) : Except PfcpError (PfcpHeader × Bytes) :=
  if h8 : buf.length < 8 then .error (.bufferTooShort 8 buf.length)
  else
    let flags := buf[0]
    let version := flags >>> 5
    if version ≠ pfcpVersion then .error (.unsupportedVersion version)
    else
      let sFlag : Bool := (flags &&& pfcpSFlag) ≠ 0
      let mpFlag : Bool := (flags &&& pfcpMpFlag) ≠ 0
      let foFlag : Bool := (flags &&& pfcpFoFlag) ≠ 0
      let msgType := buf[1]
      let length := u16OfBe [buf[2], buf[3]]
      if sFlag then
        if h16 : buf.length < 16 then .error (.bufferTooShort 16 buf.length)
        else
          let seid := u64OfBe
            [buf[4], buf[5], buf[6], buf[7], buf[8], buf[9], buf[10], buf[11]]
          .ok (decodeTail buf 12 (by omega) sFlag mpFlag foFlag version msgType length (some seid))
      else .ok (decodeTail buf 4 (by omega) sFlag mpFlag foFlag version msgType length none)

/-! ### The layout -/

/-- The flags of a first octet of version 1. -/
structure Flags (flags : UInt8) (fo mp s : Bool) : Prop where
  version : flags >>> 5 = pfcpVersion
  sFlag : decide (flags &&& pfcpSFlag ≠ 0) = s
  mpFlag : decide (flags &&& pfcpMpFlag ≠ 0) = mp
  foFlag : decide (flags &&& pfcpFoFlag ≠ 0) = fo

/-- The datagrams that `decode` accepts, each with the header and the body read from it. -/
inductive Layout : Bytes → PfcpHeader → Bytes → Prop
  | node {flags : UInt8} {fo mp : Bool} (hf : Flags flags fo mp false)
      (t l₀ l₁ q₀ q₁ q₂ p : UInt8) (body : Bytes) :
      Layout (flags :: t :: l₀ :: l₁ :: q₀ :: q₁ :: q₂ :: p :: body)
        { version := pfcpVersion, sFlag := false, mpFlag := mp, foFlag := fo, msgType := t
          length := u16OfBe [l₀, l₁], seid := none, seqNum := u32OfBe [0, q₀, q₁, q₂]
          priority := if mp then p >>> 4 else 0 } body
  | session {flags : UInt8} {fo mp : Bool} (hf : Flags flags fo mp true)
      (t l₀ l₁ b₀ b₁ b₂ b₃ b₄ b₅ b₆ b₇ q₀ q₁ q₂ p : UInt8) (body : Bytes) :
      Layout (flags :: t :: l₀ :: l₁ :: b₀ :: b₁ :: b₂ :: b₃ :: b₄ :: b₅ :: b₆ :: b₇ ::
          q₀ :: q₁ :: q₂ :: p :: body)
        { version := pfcpVersion, sFlag := true, mpFlag := mp, foFlag := fo, msgType := t
          length := u16OfBe [l₀, l₁], seid := some (u64OfBe [b₀, b₁, b₂, b₃, b₄, b₅, b₆, b₇])
          seqNum := u32OfBe [0, q₀, q₁, q₂], priority := if mp then p >>> 4 else 0 } body

theorem decode_of_layout {buf body : Bytes} {header : PfcpHeader} (h : Layout buf header body) :
    decode buf = .ok (header, body) := by
  cases h with
  | node hf =>
    obtain ⟨hv, hs, rfl, rfl⟩ := hf
    have h8 : ¬ body.length + 8 < 8 := by omega
    rw [decide_eq_false_iff_not, not_not] at hs
    simp [decode, decodeTail, hv, hs, h8]
  | session hf =>
    obtain ⟨hv, hs, rfl, rfl⟩ := hf
    have h8 : ¬ body.length + 16 < 8 := by omega
    have h16 : ¬ body.length + 16 < 16 := by omega
    rw [decide_eq_true_eq] at hs
    simp [decode, decodeTail, hv, hs, h8, h16]

theorem exists_octets {buf : Bytes} (h : 8 ≤ buf.length) : ∃ b₀ b₁ b₂ b₃ b₄ b₅ b₆ b₇ rest,
    buf = b₀ :: b₁ :: b₂ :: b₃ :: b₄ :: b₅ :: b₆ :: b₇ :: rest := by
  match buf, h with
  | b₀ :: b₁ :: b₂ :: b₃ :: b₄ :: b₅ :: b₆ :: b₇ :: rest, _ =>
    exact ⟨b₀, b₁, b₂, b₃, b₄, b₅, b₆, b₇, rest, rfl⟩

theorem layout_of_decode {buf body : Bytes} {header : PfcpHeader}
    (h : decode buf = .ok (header, body)) : Layout buf header body := by
  have hread : ∀ {header' : PfcpHeader} {body' : Bytes}, Layout buf header' body' →
      Layout buf header body := by
    intro header' body' hl
    rw [decode_of_layout hl] at h
    obtain ⟨rfl, rfl⟩ := Prod.mk.inj (Except.ok.inj h)
    exact hl
  have h8 : 8 ≤ buf.length := by
    by_contra hlt
    rw [decode, dif_pos (Nat.not_le.mp hlt)] at h
    cases h
  obtain ⟨flags, t, l₀, l₁, c₀, c₁, c₂, c₃, rest, rfl⟩ := exists_octets h8
  have h8' : ¬ rest.length + 8 < 8 := by omega
  have hv : flags >>> 5 = pfcpVersion := by
    by_contra hv
    simp [decode, hv, h8'] at h
  cases hs : decide (flags &&& pfcpSFlag ≠ 0) with
  | false => exact hread (.node ⟨hv, hs, rfl, rfl⟩ ..)
  | true =>
    have hrest : 8 ≤ rest.length := by
      by_contra hlt
      have hs' := of_decide_eq_true hs
      have h16 : rest.length + 8 < 16 := by omega
      simp [decode, hv, hs', h8', h16] at h
    obtain ⟨c₄, c₅, c₆, c₇, q₀, q₁, q₂, p, rest, rfl⟩ := exists_octets hrest
    exact hread (.session ⟨hv, hs, rfl, rfl⟩ ..)

/-- A sequence number is read from three octets. -/
theorem decode_seqNum_lt {buf body : Bytes} {header : PfcpHeader}
    (h : decode buf = .ok (header, body)) : header.seqNum.toNat < 2 ^ 24 := by
  cases layout_of_decode h <;> exact toNat_u32OfBe_three_lt ..

/-- The body is a part of the datagram. -/
theorem length_body_le {buf body : Bytes} {header : PfcpHeader}
    (h : decode buf = .ok (header, body)) : body.length ≤ buf.length := by
  cases layout_of_decode h <;> simp only [List.length_cons] <;> omega

/-- A header has sixteen octets at most. -/
theorem length_le_body {buf body : Bytes} {header : PfcpHeader}
    (h : decode buf = .ok (header, body)) : buf.length ≤ body.length + 16 := by
  cases layout_of_decode h <;> simp only [List.length_cons] <;> omega

/-- The type of a message is its second octet. -/
theorem getElem_one_of_decode {buf body : Bytes} {header : PfcpHeader}
    (h : decode buf = .ok (header, body)) : buf[1]? = some header.msgType := by
  cases layout_of_decode h <;> rfl

/-! ### Reading what was written -/

/-- The first octet that `encode` writes for version 1. -/
def flagBits (fo mp s : Bool) : UInt8 :=
  let flags := (pfcpVersion &&& 0x07) <<< 5
  let flags := if fo then flags ||| pfcpFoFlag else flags
  let flags := if mp then flags ||| pfcpMpFlag else flags
  if s then flags ||| pfcpSFlag else flags

theorem flags_flagBits (fo mp s : Bool) : Flags (flagBits fo mp s) fo mp s := by
  cases fo <;> cases mp <;> cases s <;> exact ⟨by decide, by decide, by decide, by decide⟩

/-- The octets of a header without a SEID. -/
theorem encode_node (mp fo : Bool) (t : UInt8) (len : UInt16) (seq : UInt32) (prio : UInt8) :
    encode ⟨pfcpVersion, false, mp, fo, t, len, none, seq, prio⟩ =
      flagBits fo mp false :: t :: (u16ToBe len ++ [(seq >>> 16).toUInt8, (seq >>> 8).toUInt8,
        seq.toUInt8, if mp then prio <<< 4 else 0]) := by
  simp [encode, flagBits]

/-- The octets of a header with a SEID. -/
theorem encode_session (mp fo : Bool) (t : UInt8) (len : UInt16) (seid : UInt64) (seq : UInt32)
    (prio : UInt8) :
    encode ⟨pfcpVersion, true, mp, fo, t, len, some seid, seq, prio⟩ =
      flagBits fo mp true :: t :: (u16ToBe len ++ (u64ToBe seid ++ [(seq >>> 16).toUInt8,
        (seq >>> 8).toUInt8, seq.toUInt8, if mp then prio <<< 4 else 0])) := by
  simp [encode, flagBits]

theorem shiftLeft_shiftRight_nibble {p : UInt8} (h : p < 16) : p <<< 4 >>> 4 = p := by
  rw [UInt8.lt_iff_toNat_lt] at h
  apply UInt8.toNat_inj.mp
  have h16 : (16 : UInt8).toNat = 16 := rfl
  simp [Nat.shiftRight_eq_div_pow, Nat.shiftLeft_eq]
  omega

/-- What is read from a header that was written, for any sequence number: its low three octets. -/
theorem decode_encode_append {h : PfcpHeader} (hv : h.version = pfcpVersion)
    (hseid : h.seid.isSome = h.sFlag) (hp : h.priority < 16)
    (hp0 : h.mpFlag = false → h.priority = 0) (body : Bytes) :
    decode (h.encode ++ body) =
      .ok ({ h with seqNum := UInt32.ofNat (h.seqNum.toNat % 2 ^ 24) }, body) := by
  obtain ⟨version, s, mp, fo, t, len, seid, seq, prio⟩ := h
  dsimp only at hv hseid hp hp0 ⊢
  subst hv
  obtain ⟨l₀, l₁, hl⟩ : ∃ b₀ b₁, u16ToBe len = [b₀, b₁] := ⟨_, _, rfl⟩
  have hlen : u16OfBe [l₀, l₁] = len := by rw [← hl, u16OfBe_u16ToBe]
  have hprio : (if mp then (if mp then prio <<< 4 else 0) >>> 4 else 0) = prio := by
    cases mp with
    | false => exact (hp0 rfl).symm
    | true => exact shiftLeft_shiftRight_nibble hp
  cases s with
  | false =>
    obtain rfl : seid = none := Option.not_isSome_iff_eq_none.mp (by simp [hseid])
    rw [encode_node, hl]
    have hread := decode_of_layout (.node (flags_flagBits fo mp false) t l₀ l₁
      (seq >>> 16).toUInt8 (seq >>> 8).toUInt8 seq.toUInt8 (if mp then prio <<< 4 else 0) body)
    rwa [hlen, u32OfBe_seq, hprio] at hread
  | true =>
    obtain ⟨x, rfl⟩ := Option.isSome_iff_exists.mp hseid
    obtain ⟨b₀, b₁, b₂, b₃, b₄, b₅, b₆, b₇, hb⟩ := u64ToBe_eq x
    have hx : u64OfBe [b₀, b₁, b₂, b₃, b₄, b₅, b₆, b₇] = x := by rw [← hb, u64OfBe_u64ToBe]
    rw [encode_session, hl, hb]
    have hread := decode_of_layout (.session (flags_flagBits fo mp true) t l₀ l₁
      b₀ b₁ b₂ b₃ b₄ b₅ b₆ b₇ (seq >>> 16).toUInt8 (seq >>> 8).toUInt8 seq.toUInt8
      (if mp then prio <<< 4 else 0) body)
    rwa [hlen, hx, u32OfBe_seq, hprio] at hread

/-! ### Writing what was read -/

/-- A header whose fields fit the octets they are written to. -/
structure Encodable (h : PfcpHeader) : Prop where
  version : h.version = pfcpVersion
  seqNum : h.seqNum.toNat < 2 ^ 24
  seid : h.seid.isSome = h.sFlag
  priority : h.priority < 16
  priority_zero : h.mpFlag = false → h.priority = 0

/-- A datagram with the spare bits of its header cleared: two bits of the first octet, and of the
last octet of the header the low half, or all of it where there is no message priority. -/
def clearSpare (buf : Bytes) : Bytes :=
  let flags := buf.headD 0
  let last := if flags &&& pfcpSFlag ≠ 0 then 15 else 7
  (buf.modify 0 (· &&& 0xE7)).modify last
    fun b => if flags &&& pfcpMpFlag ≠ 0 then b &&& 0xF0 else 0

/-- A first octet of version 1 is the one `encode` writes but for its spare bits. -/
theorem flagBits_of_flags {flags : UInt8} {fo mp s : Bool} (h : Flags flags fo mp s) :
    flagBits fo mp s = flags &&& 0xE7 := by
  have hall : ∀ b : UInt8, b >>> 5 = pfcpVersion →
      flagBits (decide (b &&& pfcpFoFlag ≠ 0)) (decide (b &&& pfcpMpFlag ≠ 0))
        (decide (b &&& pfcpSFlag ≠ 0)) = b &&& 0xE7 := by
    apply forall_octet
    decide +kernel
  rw [← hall flags h.version, h.foFlag, h.mpFlag, h.sFlag]

theorem clearSpare_cons {flags : UInt8} {fo mp s : Bool} (hf : Flags flags fo mp s)
    (rest : Bytes) :
    clearSpare (flags :: rest) = flagBits fo mp s :: rest.modify (if s then 14 else 6)
      fun b => if mp then b &&& 0xF0 else 0 := by
  rw [flagBits_of_flags hf]
  obtain ⟨-, rfl, rfl, -⟩ := hf
  by_cases hs : flags &&& pfcpSFlag = 0 <;> simp [clearSpare, hs]

/-- The last octet of a header, read and written again. -/
theorem priority_octet (mp : Bool) (p : UInt8) :
    (if mp then (if mp then p >>> 4 else 0) <<< 4 else 0) = if mp then p &&& 0xF0 else 0 := by
  have hall : ∀ b : UInt8, b >>> 4 <<< 4 = b &&& 0xF0 := by
    apply forall_octet
    decide +kernel
  cases mp with
  | false => rfl
  | true => exact hall p

theorem priority_lt (mp : Bool) (p : UInt8) : (if mp then p >>> 4 else 0) < 16 := by
  have hp := p.toNat_lt
  rw [UInt8.lt_iff_toNat_lt]
  cases mp with
  | false => exact Nat.zero_lt_succ 15
  | true =>
    simp [Nat.shiftRight_eq_div_pow]
    omega

theorem encodable_of_decode {buf body : Bytes} {h : PfcpHeader}
    (hd : decode buf = .ok (h, body)) : Encodable h := by
  have hseq := decode_seqNum_lt hd
  cases layout_of_decode hd with
  | node => exact ⟨rfl, hseq, rfl, priority_lt .., fun hmp => if_neg (ne_true_of_eq_false hmp)⟩
  | session => exact ⟨rfl, hseq, rfl, priority_lt .., fun hmp => if_neg (ne_true_of_eq_false hmp)⟩

theorem encode_append_of_decode {buf body : Bytes} {h : PfcpHeader}
    (hd : decode buf = .ok (h, body)) : h.encode ++ body = clearSpare buf := by
  cases layout_of_decode hd with
  | node hf t l₀ l₁ q₀ q₁ q₂ p =>
    obtain ⟨h₀, h₁, h₂⟩ := octets_u32OfBe q₀ q₁ q₂
    rw [encode_node, u16ToBe_u16OfBe rfl, h₀, h₁, h₂, priority_octet, clearSpare_cons hf]
    rfl
  | session hf t l₀ l₁ b₀ b₁ b₂ b₃ b₄ b₅ b₆ b₇ q₀ q₁ q₂ p =>
    obtain ⟨h₀, h₁, h₂⟩ := octets_u32OfBe q₀ q₁ q₂
    rw [encode_session, u16ToBe_u16OfBe rfl, u64ToBe_u64OfBe rfl, h₀, h₁, h₂, priority_octet,
      clearSpare_cons hf]
    rfl

/-- **Writing and reading a header are inverse**: a header whose fields fit is read back with any
body behind it, and what is read has fields that fit and is written as it was, with the spare bits
cleared. -/
theorem encode_decode_inverse :
    (∀ (h : PfcpHeader) (body : Bytes), Encodable h → decode (h.encode ++ body) = .ok (h, body)) ∧
    ∀ (buf : Bytes) (h : PfcpHeader) (body : Bytes), decode buf = .ok (h, body) →
      Encodable h ∧ h.encode ++ body = clearSpare buf := by
  refine ⟨?_, ?_⟩
  · intro h body he
    rw [decode_encode_append he.version he.seid he.priority he.priority_zero,
      Nat.mod_eq_of_lt he.seqNum, UInt32.ofNat_toNat]
  · intro buf h body hd
    exact ⟨encodable_of_decode hd, encode_append_of_decode hd⟩

/-- A session header with a priority, and a node header with every spare bit set. -/
theorem encode_decode_inverse_examples :
    let h : PfcpHeader := ⟨pfcpVersion, true, true, true, 50, 13, some 0xDEADBEEF, 0xFFFFFF, 5⟩
    let buf : Bytes := [0x38, 1, 0, 4, 0, 0, 42, 0xFF, 7]
    decode (h.encode ++ [7]) = .ok (h, [7]) ∧
      ({ newNodeMsg 1 42 with length := 4 } : PfcpHeader).encode ++ [7] = clearSpare buf ∧
      clearSpare buf = [0x20, 1, 0, 4, 0, 0, 42, 0, 7] :=
  ⟨encode_decode_inverse.1 _ _ ⟨rfl, by decide, rfl, by decide, by decide⟩,
    (encode_decode_inverse.2 [0x38, 1, 0, 4, 0, 0, 42, 0xFF, 7] _ [7] (by rfl)).2, by decide⟩

end PfcpHeader

end UpfEdge.Pfcp
