import UpfEdge.Lib.Crash
import UpfEdge.Pfcp.Dict
import UpfEdge.Pfcp.Messages

/-!
# The decoders, access by access

`header.rs`, `ie.rs`, `messages.rs` and `dict_ext.rs` once more, with every index and slice of the
source as an access that panics outside its buffer, and with the loop of `iter_ies` given a number
of turns.  Nothing here relies on a length test having been made: that is what is proved.

Each function is equal to its total counterpart (`*_eq`), given one turn for every four octets and
one more.  So no datagram makes a decoder panic or loop, whatever its length and whatever lengths it
declares (`decoders_never_crash`).
-/

namespace UpfEdge.Pfcp.Checked

open Lib Crash

/-! ### Header -/

/-- The priority octet is read only with the MP flag. -/
def decodePriority (buf : Bytes) (pos : ℕ) (mpFlag : Bool) : Crash PfcpError UInt8 := do
  if mpFlag then return (← index buf pos) >>> 4 else return 0

/-- `PfcpHeader::decode` behind the SEID field. -/
def decodeTail (buf : Bytes) (pos : ℕ) (sFlag mpFlag foFlag : Bool) (version msgType : UInt8)
    (length : UInt16) (seid : Option UInt64) : Crash PfcpError (PfcpHeader × Bytes) := do
  let seqNum := u32OfBe [0, ← index buf pos, ← index buf (pos + 1), ← index buf (pos + 2)]
  let priority ← decodePriority buf (pos + 3) mpFlag
  let body ← sliceFrom buf (pos + 4)
  return ({ version, sFlag, mpFlag, foFlag, msgType, length, seid, seqNum, priority }, body)

def decodeHeader (buf : Bytes) : Crash PfcpError (PfcpHeader × Bytes) := do
  if buf.length < 8 then .err (.bufferTooShort 8 buf.length)
  else
    let flags ← index buf 0
    let version := flags >>> 5
    if version ≠ pfcpVersion then .err (.unsupportedVersion version)
    else
      let sFlag : Bool := (flags &&& pfcpSFlag) ≠ 0
      let mpFlag : Bool := (flags &&& pfcpMpFlag) ≠ 0
      let foFlag : Bool := (flags &&& pfcpFoFlag) ≠ 0
      let msgType ← index buf 1
      let length := u16OfBe [← index buf 2, ← index buf 3]
      if sFlag then
        if buf.length < 16 then .err (.bufferTooShort 16 buf.length)
        else
          let seid := u64OfBe [← index buf 4, ← index buf 5, ← index buf 6, ← index buf 7,
            ← index buf 8, ← index buf 9, ← index buf 10, ← index buf 11]
          decodeTail buf 12 sFlag mpFlag foFlag version msgType length (some seid)
      else decodeTail buf 4 sFlag mpFlag foFlag version msgType length none

theorem decodeTail_eq {buf : Bytes} {pos : ℕ} (hpos : pos + 4 ≤ buf.length)
    (sFlag mpFlag foFlag : Bool) (version msgType : UInt8) (length : UInt16)
    (seid : Option UInt64) :
    decodeTail buf pos sFlag mpFlag foFlag version msgType length seid =
      .ok (PfcpHeader.decodeTail buf pos hpos sFlag mpFlag foFlag version msgType length seid) := by
  have hpriority : decodePriority buf (pos + 3) mpFlag =
      .ok (if mpFlag then buf[pos + 3] >>> 4 else 0) := by
    unfold decodePriority
    cases mpFlag with
    | false => rfl
    | true => simp (disch := omega) only [index_of_lt, ok_bind, pure_eq, if_true]
  unfold decodeTail PfcpHeader.decodeTail
  simp (disch := omega) only [hpriority, index_of_lt, sliceFrom_of_le, ok_bind, pure_eq]

theorem decodeHeader_eq (buf : Bytes) : decodeHeader buf = ofExcept (PfcpHeader.decode buf) := by
  unfold decodeHeader PfcpHeader.decode
  by_cases h8 : buf.length < 8
  · simp [h8]
  rw [if_neg h8, dif_neg h8]
  simp (disch := omega) only [index_of_lt, ok_bind]
  by_cases hversion : buf[0] >>> 5 ≠ pfcpVersion
  · rw [if_pos hversion, if_pos hversion, ofExcept_error]
  rw [if_neg hversion, if_neg hversion]
  by_cases hs : decide (buf[0] &&& pfcpSFlag ≠ 0) = true
  · rw [if_pos hs, if_pos hs]
    by_cases h16 : buf.length < 16
    · rw [if_pos h16, dif_pos h16, ofExcept_error]
    · rw [if_neg h16, dif_neg h16]
      simp (disch := omega) only [index_of_lt, ok_bind]
      exact decodeTail_eq (by omega) ..
  · rw [if_neg hs, if_neg hs]
    exact decodeTail_eq (by omega) ..

/-! ### The TLV loop -/

/-- `iter_ies`, for at most `n` turns of a loop inside another. -/
def iterIes : ℕ → Bytes → Crash PfcpError (List RawIE)
  | 0, _ => .stuck
  | n + 1, buf => do
    if 4 ≤ buf.length then
      let ieType := u16OfBe [← index buf 0, ← index buf 1]
      let length := (u16OfBe [← index buf 2, ← index buf 3]).toNat
      if buf.length < 4 + length then
        -- the warning shows how much is left
        let _ ← usizeSub buf.length 4
        return []
      else
        let value ← slice buf 4 (4 + length)
        let subIe ← if isGroupedIe ieType then iterIes n value else pure []
        let rest ← sliceFrom buf (4 + length)
        let ies ← iterIes n rest
        return .mk ieType (UInt16.ofNat length) value subIe :: ies
    else return []

theorem iterIes_eq : ∀ {n : ℕ} {buf : Bytes}, buf.length < 4 * n →
    iterIes n buf = .ok (Pfcp.iterIes buf)
  | 0, buf, h => by omega
  | n + 1, buf, h => by
    rw [iterIes, Pfcp.iterIes]
    by_cases h4 : 4 ≤ buf.length
    · rw [if_pos h4, dif_pos h4]
      simp (disch := omega) only [index_of_lt, ok_bind]
      generalize (u16OfBe [buf[2], buf[3]]).toNat = length
      generalize u16OfBe [buf[0], buf[1]] = ieType
      by_cases hroom : buf.length < 4 + length
      · rw [if_pos hroom, if_pos hroom, usizeSub_of_le h4]
        rfl
      · rw [if_neg hroom, if_neg hroom, slice_of_le (by omega) (by omega),
          sliceFrom_of_le (by omega)]
        have hvalue : ((buf.drop 4).take (4 + length - 4)) = (buf.drop 4).take length := by
          rw [Nat.add_sub_cancel_left]
        have hsub : iterIes n ((buf.drop 4).take length) =
            .ok (Pfcp.iterIes ((buf.drop 4).take length)) :=
          iterIes_eq (by rw [List.length_take, List.length_drop]; omega)
        have hrest : iterIes n (buf.drop (4 + length)) =
            .ok (Pfcp.iterIes (buf.drop (4 + length))) :=
          iterIes_eq (by rw [List.length_drop]; omega)
        by_cases hgrouped : isGroupedIe ieType
        · simp only [hvalue, hsub, hrest, hgrouped, if_true, ok_bind, pure_eq]
        · simp only [hvalue, hrest, hgrouped, if_false, ok_bind, pure_eq, Bool.false_eq_true]
    · rw [if_neg h4, dif_neg h4]
      rfl

/-! ### Leaf parsers -/

section Words

variable {ε : Type}

/-- `u16::from_be_bytes` of two octets. -/
def read16 (v : Bytes) (i : ℕ) : Crash ε UInt16 := do
  return u16OfBe [← index v i, ← index v (i + 1)]

/-- `u32::from_be_bytes` of four octets. -/
def read32 (v : Bytes) (i : ℕ) : Crash ε UInt32 := do
  return u32OfBe [← index v i, ← index v (i + 1), ← index v (i + 2), ← index v (i + 3)]

/-- `u64::from_be_bytes` of eight octets. -/
def read64 (v : Bytes) (i : ℕ) : Crash ε UInt64 := do
  return u64OfBe [← index v i, ← index v (i + 1), ← index v (i + 2), ← index v (i + 3),
    ← index v (i + 4), ← index v (i + 5), ← index v (i + 6), ← index v (i + 7)]

/-- `Ipv4Addr::new` of four octets. -/
def readAddr (v : Bytes) (i : ℕ) : Crash ε Ipv4Addr := do
  return ⟨← index v i, ← index v (i + 1), ← index v (i + 2), ← index v (i + 3)⟩

theorem read16_of_lt {v : Bytes} {i : ℕ} (h : i + 1 < v.length) :
    (read16 v i : Crash ε UInt16) = .ok (u16OfBe [v[i], v[i + 1]]) := by
  simp (disch := omega) only [read16, index_of_lt, ok_bind, pure_eq]

theorem read32_of_lt {v : Bytes} {i : ℕ} (h : i + 3 < v.length) :
    (read32 v i : Crash ε UInt32) = .ok (u32OfBe [v[i], v[i + 1], v[i + 2], v[i + 3]]) := by
  simp (disch := omega) only [read32, index_of_lt, ok_bind, pure_eq]

theorem read64_of_lt {v : Bytes} {i : ℕ} (h : i + 7 < v.length) :
    (read64 v i : Crash ε UInt64) = .ok (u64OfBe [v[i], v[i + 1], v[i + 2], v[i + 3], v[i + 4],
      v[i + 5], v[i + 6], v[i + 7]]) := by
  simp (disch := omega) only [read64, index_of_lt, ok_bind, pure_eq]

theorem readAddr_of_lt {v : Bytes} {i : ℕ} (h : i + 3 < v.length) :
    (readAddr v i : Crash ε Ipv4Addr) = .ok ⟨v[i], v[i + 1], v[i + 2], v[i + 3]⟩ := by
  simp (disch := omega) only [readAddr, index_of_lt, ok_bind, pure_eq]

end Words

def parseNodeId (v : Bytes) : Crash PfcpError Ipv4Addr := do
  if v.length < 5 then .err (.ieParseError pfcpIeNodeId "too short")
  else
    let nodeType := (← index v 0) &&& 0x0F
    if nodeType ≠ 0 then
      .err (.ieParseError pfcpIeNodeId ("unsupported type " ++ toString nodeType ++ " (only IPv4)"))
    else readAddr v 1

theorem parseNodeId_eq (v : Bytes) : parseNodeId v = ofExcept (Pfcp.parseNodeId v) := by
  unfold parseNodeId Pfcp.parseNodeId
  by_cases h : v.length < 5
  · simp [h]
  · rw [if_neg h, dif_neg h, index_of_lt (by omega), ok_bind]
    dsimp only
    split_ifs
    · rfl
    · exact readAddr_of_lt (by omega)

def parseRecoveryTimestamp (v : Bytes) : Crash PfcpError UInt32 := do
  if v.length < 4 then .err (.ieParseError pfcpIeRecoveryTimeStamp "too short")
  else read32 v 0

theorem parseRecoveryTimestamp_eq (v : Bytes) :
    parseRecoveryTimestamp v = ofExcept (Pfcp.parseRecoveryTimestamp v) := by
  unfold parseRecoveryTimestamp Pfcp.parseRecoveryTimestamp
  by_cases h : v.length < 4
  · simp [h]
  · rw [if_neg h, dif_neg h]
    exact read32_of_lt (by omega)

def parseFseid (v : Bytes) : Crash PfcpError (UInt64 × Ipv4Addr) := do
  if v.length < 13 then .err (.ieParseError pfcpIeFseid "too short")
  else
    let seid ← read64 v 1
    let addr ← readAddr v 9
    return (seid, addr)

theorem parseFseid_eq (v : Bytes) : parseFseid v = ofExcept (Pfcp.parseFseid v) := by
  unfold parseFseid Pfcp.parseFseid
  by_cases h : v.length < 13
  · simp [h]
  · rw [if_neg h, dif_neg h, read64_of_lt (by omega), readAddr_of_lt (by omega)]
    rfl

def parseFteid (v : Bytes) : Crash PfcpError (UInt32 × Ipv4Addr) := do
  if v.length < 5 then .err (.ieParseError pfcpIeFteid "too short")
  else
    let flags ← index v 0
    let teid ← read32 v 1
    if flags &&& 0x04 ≠ 0 then return (0, .unspecified)
    else if 9 ≤ v.length then
      let addr ← readAddr v 5
      return (teid, addr)
    else .err (.ieParseError pfcpIeFteid "no IPv4 address")

theorem parseFteid_eq (v : Bytes) : parseFteid v = ofExcept (Pfcp.parseFteid v) := by
  unfold parseFteid Pfcp.parseFteid
  by_cases h : v.length < 5
  · simp [h]
  · rw [if_neg h, dif_neg h, index_of_lt (by omega), read32_of_lt (by omega), ok_bind, ok_bind]
    by_cases hch : v[0] &&& 0x04 ≠ 0
    · rw [if_pos hch, if_pos hch]
      rfl
    · rw [if_neg hch, if_neg hch]
      by_cases h9 : 9 ≤ v.length
      · rw [if_pos h9, dif_pos h9, readAddr_of_lt h9]
        rfl
      · rw [if_neg h9, dif_neg h9]
        rfl

def parseUeIpAddress (v : Bytes) : Crash PfcpError Ipv4Addr := do
  if v.length < 5 then .err (.ieParseError pfcpIeUeIpAddress "too short")
  else if (← index v 0) &&& 0x02 ≠ 0 then readAddr v 1
  else .err (.ieParseError pfcpIeUeIpAddress "no IPv4")

theorem parseUeIpAddress_eq (v : Bytes) :
    parseUeIpAddress v = ofExcept (Pfcp.parseUeIpAddress v) := by
  unfold parseUeIpAddress Pfcp.parseUeIpAddress
  by_cases h : v.length < 5
  · simp [h]
  · rw [if_neg h, dif_neg h, index_of_lt (by omega), ok_bind]
    split_ifs
    · exact readAddr_of_lt (by omega)
    · rfl

def parseOuterHeaderCreation (v : Bytes) : Crash PfcpError OuterHeaderCreation := do
  if v.length < 10 then .err (.ieParseError pfcpIeOuterHeaderCreation "too short")
  else
    let teid ← read32 v 2
    let peerAddr ← readAddr v 6
    return { teid, peerAddr, port := 2152 }

theorem parseOuterHeaderCreation_eq (v : Bytes) :
    parseOuterHeaderCreation v = ofExcept (Pfcp.parseOuterHeaderCreation v) := by
  unfold parseOuterHeaderCreation Pfcp.parseOuterHeaderCreation
  by_cases h : v.length < 10
  · simp [h]
  · rw [if_neg h, dif_neg h, read32_of_lt (by omega), readAddr_of_lt (by omega)]
    rfl

def parseApplyAction (v : Bytes) : Crash PfcpError UInt8 := do
  if v.length = 0 then .err (.ieParseError pfcpIeApplyAction "empty") else index v 0

theorem parseApplyAction_eq (v : Bytes) :
    parseApplyAction v = ofExcept (Pfcp.parseApplyAction v) := by
  unfold parseApplyAction Pfcp.parseApplyAction
  by_cases h : v.length = 0
  · simp [h]
  · rw [if_neg h, dif_neg h]
    exact index_of_lt (by omega)

def parseSdfFilter (v : Bytes) : Crash PfcpError SdfFilter := do
  if v.length < 13 then .err (.ieParseError pfcpIeSdfFilter "too short")
  else
    let proto ← index v 0
    let srcIp ← readAddr v 1
    let dstIp ← readAddr v 5
    let srcPort ← read16 v 9
    let dstPort ← read16 v 11
    return { proto, srcIp, dstIp, srcPort, dstPort }

theorem parseSdfFilter_eq (v : Bytes) : parseSdfFilter v = ofExcept (Pfcp.parseSdfFilter v) := by
  unfold parseSdfFilter Pfcp.parseSdfFilter
  by_cases h : v.length < 13
  · simp [h]
  · rw [if_neg h, dif_neg h, index_of_lt (by omega), readAddr_of_lt (by omega),
      readAddr_of_lt (by omega), read16_of_lt (by omega), read16_of_lt (by omega)]
    rfl

def parseVolumeThreshold (v : Bytes) : Crash PfcpError (Option UInt64) := do
  if v.length = 0 then return none
  else
    let flags ← index v 0
    if flags &&& volumeThresholdTovol ≠ 0 then
      if v.length < 1 + 8 then .err (.bufferTooShort (1 + 8) v.length)
      else
        let total ← read64 v 1
        return some total
    else return none

theorem parseVolumeThreshold_eq (v : Bytes) :
    parseVolumeThreshold v = ofExcept (Pfcp.parseVolumeThreshold v) := by
  unfold parseVolumeThreshold Pfcp.parseVolumeThreshold
  by_cases h : v.length = 0
  · simp [h]
  · rw [if_neg h, dif_neg h, index_of_lt (by omega), ok_bind]
    by_cases hflag : v[0] &&& volumeThresholdTovol ≠ 0
    · rw [if_pos hflag, if_pos hflag]
      by_cases h9 : v.length < 1 + 8
      · rw [if_pos h9, dif_pos h9]
        rfl
      · rw [if_neg h9, dif_neg h9, read64_of_lt (by omega)]
        rfl
    · rw [if_neg hflag, if_neg hflag]
      rfl

/-! ### Grouped parsers -/

/-- A field that keeps its value unless the IE is long enough for a new one. -/
def field16 (v : Bytes) : Crash PfcpError (Option UInt16) := do
  if 2 ≤ v.length then
    let x ← read16 v 0
    return some x
  else return none

def field32 (v : Bytes) : Crash PfcpError (Option UInt32) := do
  if 4 ≤ v.length then
    let x ← read32 v 0
    return some x
  else return none

def field8 (v : Bytes) : Crash PfcpError (Option UInt8) := do
  if v.length = 0 then return none
  else
    let b ← index v 0
    return some b

theorem field16_eq (v : Bytes) : field16 v = .ok (Pfcp.field16 v) := by
  unfold field16 Pfcp.field16
  by_cases h : 2 ≤ v.length
  · rw [if_pos h, dif_pos h, read16_of_lt (by omega)]
    rfl
  · rw [if_neg h, dif_neg h]
    rfl

theorem field32_eq (v : Bytes) : field32 v = .ok (Pfcp.field32 v) := by
  unfold field32 Pfcp.field32
  by_cases h : 4 ≤ v.length
  · rw [if_pos h, dif_pos h, read32_of_lt (by omega)]
    rfl
  · rw [if_neg h, dif_neg h]
    rfl

theorem field8_eq (v : Bytes) : field8 v = .ok v.head? := by
  cases v with
  | nil => rfl
  | cons b v => rfl

/-- A grouped parser: the loop over the sub-IEs of a value. -/
def grouped {σ : Type} (n : ℕ) (step : σ → RawIE → Crash PfcpError σ) (value : Bytes) (s : σ) :
    Crash PfcpError σ := do
  let ies ← iterIes n value
  ies.foldlM step s

/-- What stands in a buffer is not longer than the buffer. -/
theorem length_value_le {n : ℕ} : ∀ {buf : Bytes}, buf.length ≤ n →
    ∀ ie ∈ Pfcp.iterIes buf, ie.value.length ≤ buf.length := by
  induction n with
  | zero =>
    intro buf h ie hie
    rw [iterIes_of_short (by omega)] at hie
    cases hie
  | succ n ih =>
    intro buf h ie hie
    match buf with
    | t₀ :: t₁ :: l₀ :: l₁ :: rest =>
      rw [iterIes_cons] at hie
      simp only [List.length_cons] at h ⊢
      split_ifs at hie with hroom
      · cases hie
      all_goals
        rcases List.mem_cons.mp hie with rfl | hie
        · simp only [RawIE.value, List.length_take]
          omega
        · have := ih (by rw [List.length_drop]; omega) ie hie
          rw [List.length_drop] at this
          omega
    | [] | [_] | [_, _] | [_, _, _] =>
      rw [iterIes_of_short (by simp)] at hie
      cases hie

theorem grouped_eq {σ : Type} {n : ℕ} {step : σ → RawIE → Crash PfcpError σ}
    {step' : σ → RawIE → Except PfcpError σ} {value : Bytes} (hn : value.length < 4 * n)
    (hstep : ∀ ie, ie.value.length < 4 * n → ∀ s, step s ie = ofExcept (step' s ie)) (s : σ) :
    grouped n step value s = ofExcept ((Pfcp.iterIes value).foldlM step' s) := by
  unfold grouped
  rw [iterIes_eq hn, ok_bind]
  refine foldlM_ofExcept (fun ie hie s => hstep ie ?_ s) s
  have := length_value_le (Nat.le_refl _) ie hie
  omega

def parsePdiIe (pdr : ParsedPDR) (ie : RawIE) : Crash PfcpError ParsedPDR := do
  if ie.ieType = pfcpIeSourceInterface then
    return match ← field8 ie.value with
      | some b => { pdr with sourceInterface := b &&& 0x0F }
      | none => pdr
  else if ie.ieType = pfcpIeFteid then
    return { pdr with localFteid := some (← parseFteid ie.value) }
  else if ie.ieType = pfcpIeUeIpAddress then
    return { pdr with ueIp := some (← parseUeIpAddress ie.value) }
  else if ie.ieType = pfcpIeSdfFilter then
    return { pdr with sdfFilter := some (← parseSdfFilter ie.value) }
  else return pdr

theorem parsePdiIe_eq (pdr : ParsedPDR) (ie : RawIE) :
    parsePdiIe pdr ie = ofExcept (Pfcp.parsePdiIe pdr ie) := by
  unfold parsePdiIe Pfcp.parsePdiIe
  split_ifs
  · rw [field8_eq]
    rfl
  · rw [parseFteid_eq, ofExcept_bind]
    rfl
  · rw [parseUeIpAddress_eq, ofExcept_bind]
    rfl
  · rw [parseSdfFilter_eq, ofExcept_bind]
    rfl
  · rfl

def parseCreatePdrIe (n : ℕ) (pdr : ParsedPDR) (ie : RawIE) : Crash PfcpError ParsedPDR := do
  if ie.ieType = pfcpIePdrId then
    return { pdr with pdrId := (← field16 ie.value).getD pdr.pdrId }
  else if ie.ieType = pfcpIePrecedence then
    return { pdr with precedence := (← field32 ie.value).getD pdr.precedence }
  else if ie.ieType = pfcpIePdi then
    grouped n parsePdiIe ie.value pdr
  else if ie.ieType = pfcpIeFarId then
    return { pdr with farId := (← field32 ie.value).or pdr.farId }
  else if ie.ieType = pfcpIeUrrId then
    return { pdr with urrId := (← field32 ie.value).or pdr.urrId }
  else if ie.ieType = pfcpIeOuterHeaderRemoval then
    return { pdr with outerHeaderRemoval := true }
  else if ie.ieType = pfcpIeSdfFilter then
    return { pdr with sdfFilter := some (← parseSdfFilter ie.value) }
  else return pdr

theorem parseCreatePdrIe_eq {n : ℕ} {ie : RawIE} (hn : ie.value.length < 4 * n)
    (pdr : ParsedPDR) : parseCreatePdrIe n pdr ie = ofExcept (Pfcp.parseCreatePdrIe pdr ie) := by
  unfold parseCreatePdrIe Pfcp.parseCreatePdrIe
  split_ifs
  · rw [field16_eq]
    rfl
  · rw [field32_eq]
    rfl
  · exact grouped_eq hn (fun ie _ pdr => parsePdiIe_eq pdr ie) pdr
  · rw [field32_eq]
    rfl
  · rw [field32_eq]
    rfl
  · rfl
  · rw [parseSdfFilter_eq, ofExcept_bind]
    rfl
  · rfl

def parseCreateUrrIe (urr : ParsedURR) (ie : RawIE) : Crash PfcpError ParsedURR := do
  if ie.ieType = pfcpIeUrrId then
    return { urr with urrId := (← field32 ie.value).getD urr.urrId }
  else if ie.ieType = pfcpIeMeasurementMethod then
    return { urr with measurementMethod := (← field8 ie.value).getD urr.measurementMethod }
  else if ie.ieType = pfcpIeReportingTriggers then
    return { urr with reportingTriggers := (← field8 ie.value).getD urr.reportingTriggers }
  else if ie.ieType = pfcpIeVolumeThreshold then
    return { urr with volumeThresholdTotal := ← parseVolumeThreshold ie.value }
  else if ie.ieType = pfcpIeMeasurementPeriod then
    return { urr with measurementPeriod := (← field32 ie.value).or urr.measurementPeriod }
  else return urr

theorem parseCreateUrrIe_eq (urr : ParsedURR) (ie : RawIE) :
    parseCreateUrrIe urr ie = ofExcept (Pfcp.parseCreateUrrIe urr ie) := by
  unfold parseCreateUrrIe Pfcp.parseCreateUrrIe
  split_ifs
  · rw [field32_eq]
    rfl
  · rw [field8_eq]
    rfl
  · rw [field8_eq]
    rfl
  · rw [parseVolumeThreshold_eq, ofExcept_bind]
    rfl
  · rw [field32_eq]
    rfl
  · rfl

def parseForwardingParamsIe (far : ParsedFAR) (ie : RawIE) : Crash PfcpError ParsedFAR := do
  if ie.ieType = pfcpIeDestinationInterface then
    return match ← field8 ie.value with
      | some b => { far with destInterface := some (b &&& 0x0F) }
      | none => far
  else if ie.ieType = pfcpIeOuterHeaderCreation then
    return { far with outerHeaderCreation := some (← parseOuterHeaderCreation ie.value) }
  else return far

theorem parseForwardingParamsIe_eq (far : ParsedFAR) (ie : RawIE) :
    parseForwardingParamsIe far ie = ofExcept (Pfcp.parseForwardingParamsIe far ie) := by
  unfold parseForwardingParamsIe Pfcp.parseForwardingParamsIe
  split_ifs
  · rw [field8_eq]
    rfl
  · rw [parseOuterHeaderCreation_eq, ofExcept_bind]
    rfl
  · rfl

def parseFarIe (n : ℕ) (forwardingIe : UInt16) (far : ParsedFAR) (ie : RawIE) :
    Crash PfcpError ParsedFAR := do
  if ie.ieType = pfcpIeFarId then
    return { far with farId := (← field32 ie.value).getD far.farId }
  else if ie.ieType = pfcpIeApplyAction then
    return { far with applyAction := ← parseApplyAction ie.value }
  else if ie.ieType = forwardingIe then
    grouped n parseForwardingParamsIe ie.value far
  else return far

theorem parseFarIe_eq {n : ℕ} {ie : RawIE} (hn : ie.value.length < 4 * n) (forwardingIe : UInt16)
    (far : ParsedFAR) :
    parseFarIe n forwardingIe far ie = ofExcept (Pfcp.parseFarIe forwardingIe far ie) := by
  unfold parseFarIe Pfcp.parseFarIe
  split_ifs
  · rw [field32_eq]
    rfl
  · rw [parseApplyAction_eq, ofExcept_bind]
    rfl
  · exact grouped_eq hn (fun ie _ far => parseForwardingParamsIe_eq far ie) far
  · rfl

def parseCreatePdr (n : ℕ) (value : Bytes) : Crash PfcpError ParsedPDR :=
  grouped n (parseCreatePdrIe n) value {}

def parseCreateUrr (n : ℕ) (value : Bytes) : Crash PfcpError ParsedURR :=
  grouped n parseCreateUrrIe value {}

def parseCreateFar (n : ℕ) (value : Bytes) : Crash PfcpError ParsedFAR :=
  grouped n (parseFarIe n pfcpIeForwardingParameters) value {}

def parseUpdateFar (n : ℕ) (value : Bytes) : Crash PfcpError ParsedFAR :=
  grouped n (parseFarIe n pfcpIeUpdateForwardingParameters) value {}

/-! ### Messages -/

/-- A mandatory IE. -/
def requireIe {α : Type} (ies : List RawIE) (t : UInt16) (missing : DecodeError)
    (parse : Bytes → Crash PfcpError α) : Crash DecodeError α :=
  match findIe ies t with
  | none => .err missing
  | some raw => (parse raw.value).mapError .ie

/-- An IE whose absence or parse error is ignored. -/
def optionalIe {α : Type} (ies : List RawIE) (t : UInt16) (parse : Bytes → Crash PfcpError α) :
    Crash DecodeError (Option α) :=
  match findIe ies t with
  | none => .ok none
  | some raw => (parse raw.value).discard

/-- All IEs of a type. -/
def collectIes {α : Type} (ies : List RawIE) (t : UInt16) (parse : Bytes → Crash PfcpError α) :
    Crash DecodeError (List α) :=
  (ies.filter (·.ieType = t)).mapM fun raw => (parse raw.value).mapError .ie

section Messages

variable {α : Type} {ies : List RawIE} {parse : Bytes → Crash PfcpError α}
  {parse' : Bytes → Except PfcpError α}
  (hparse : ∀ ie ∈ ies, parse ie.value = ofExcept (parse' ie.value))
include hparse

theorem requireIe_eq (t : UInt16) (missing : DecodeError) :
    requireIe ies t missing parse = ofExcept (Pfcp.requireIe ies t missing parse') := by
  unfold requireIe Pfcp.requireIe
  cases hfind : findIe ies t with
  | none => rfl
  | some raw =>
    dsimp only
    rw [hparse raw (List.mem_of_find?_eq_some hfind), ofExcept_mapError]

theorem optionalIe_eq (t : UInt16) :
    optionalIe ies t parse = .ok (Pfcp.optionalIe ies t parse') := by
  unfold optionalIe Pfcp.optionalIe
  cases hfind : findIe ies t with
  | none => rfl
  | some raw =>
    dsimp only
    rw [hparse raw (List.mem_of_find?_eq_some hfind), ofExcept_discard]
    rfl

theorem collectIes_eq (t : UInt16) :
    collectIes ies t parse = ofExcept (Pfcp.collectIes ies t parse') := by
  refine mapM_ofExcept fun raw hraw => ?_
  rw [hparse raw (List.mem_filter.mp hraw).1, ofExcept_mapError]

end Messages

/-- The IEs of a body, for the decoders of a message. -/
def messageIes (n : ℕ) (body : Bytes) : Crash DecodeError (List RawIE) :=
  (iterIes n body).mapError .ie

def associationSetupReq (n : ℕ) (body : Bytes) : Crash DecodeError AssociationSetupReq := do
  let ies ← messageIes n body
  let nodeId ← requireIe ies pfcpIeNodeId .nodeIdMissing parseNodeId
  let recoveryTs ← requireIe ies pfcpIeRecoveryTimeStamp .recoveryTsMissing parseRecoveryTimestamp
  return { nodeId, recoveryTs }

def sessionEstablishmentReq (n : ℕ) (body : Bytes) : Crash DecodeError SessionEstablishmentReq := do
  let ies ← messageIes n body
  let (cpSeid, smfAddr) ← requireIe ies pfcpIeFseid .fseidMissing parseFseid
  let nodeId ← optionalIe ies pfcpIeNodeId parseNodeId
  let createPdrs ← collectIes ies pfcpIeCreatePdr (parseCreatePdr n)
  let createFars ← collectIes ies pfcpIeCreateFar (parseCreateFar n)
  let createUrrs ← collectIes ies pfcpIeCreateUrr (parseCreateUrr n)
  return { nodeId, cpSeid, smfAddr, createPdrs, createFars, createUrrs }

def heartbeatReq (n : ℕ) (body : Bytes) : Crash DecodeError HeartbeatReq := do
  let ies ← messageIes n body
  let recoveryTs ← optionalIe ies pfcpIeRecoveryTimeStamp parseRecoveryTimestamp
  return ⟨recoveryTs⟩

def sessionModificationReq (n : ℕ) (body : Bytes) : Crash DecodeError SessionModificationReq := do
  let ies ← messageIes n body
  let fseid ← optionalIe ies pfcpIeFseid parseFseid
  let updateFars ← collectIes ies pfcpIeUpdateFar (parseUpdateFar n)
  let updateUrrs ← collectIes ies pfcpIeUpdateUrr (parseCreateUrr n)
  return { cpSeid := fseid.map Prod.fst, smfAddr := fseid.map Prod.snd, updateFars, updateUrrs }

def validate (n : ℕ) (msgType : UInt8) (body : Bytes) : Crash DecodeError ValidationResult := do
  match lookup msgType with
  | none => return ⟨[]⟩
  | some spec =>
    let ies ← messageIes n body
    return ⟨spec.missing (ies.map (·.ieType))⟩

section Decoders

variable {n : ℕ} {body : Bytes} (hn : body.length < 4 * n)
include hn

theorem messageIes_eq : messageIes n body = .ok (Pfcp.iterIes body) := by
  rw [messageIes, iterIes_eq hn]
  rfl

/-- A sub-IE of a body leaves enough turns. -/
theorem value_lt {ie : RawIE} (hie : ie ∈ Pfcp.iterIes body) : ie.value.length < 4 * n := by
  have := length_value_le (Nat.le_refl _) ie hie
  omega

theorem associationSetupReq_eq :
    associationSetupReq n body = ofExcept (AssociationSetupReq.decode body) := by
  unfold associationSetupReq AssociationSetupReq.decode
  rw [messageIes_eq hn, ok_bind, requireIe_eq fun ie _ => parseNodeId_eq ie.value,
    requireIe_eq fun ie _ => parseRecoveryTimestamp_eq ie.value]
  simp only [ofExcept_bind]
  rfl

theorem sessionEstablishmentReq_eq :
    sessionEstablishmentReq n body = ofExcept (SessionEstablishmentReq.decode body) := by
  unfold sessionEstablishmentReq SessionEstablishmentReq.decode
  have hpdr : ∀ ie ∈ Pfcp.iterIes body, parseCreatePdr n ie.value =
      ofExcept (Pfcp.parseCreatePdr ie.value) := fun ie hie =>
    grouped_eq (value_lt hn hie) (fun _ h pdr => parseCreatePdrIe_eq h pdr) _
  have hfar : ∀ ie ∈ Pfcp.iterIes body, parseCreateFar n ie.value =
      ofExcept (Pfcp.parseCreateFar ie.value) := fun ie hie =>
    grouped_eq (value_lt hn hie) (fun _ h far => parseFarIe_eq h _ far) _
  have hurr : ∀ ie ∈ Pfcp.iterIes body, parseCreateUrr n ie.value =
      ofExcept (Pfcp.parseCreateUrr ie.value) := fun ie hie =>
    grouped_eq (value_lt hn hie) (fun ie _ urr => parseCreateUrrIe_eq urr ie) _
  rw [messageIes_eq hn, ok_bind, requireIe_eq fun ie _ => parseFseid_eq ie.value,
    optionalIe_eq fun ie _ => parseNodeId_eq ie.value, collectIes_eq hpdr, collectIes_eq hfar,
    collectIes_eq hurr]
  simp only [ofExcept_bind, ok_bind]
  rfl

theorem heartbeatReq_eq : heartbeatReq n body = .ok (HeartbeatReq.decode body) := by
  unfold heartbeatReq HeartbeatReq.decode
  rw [messageIes_eq hn, ok_bind, optionalIe_eq fun ie _ => parseRecoveryTimestamp_eq ie.value]
  rfl

theorem sessionModificationReq_eq :
    sessionModificationReq n body = ofExcept (SessionModificationReq.decode body) := by
  unfold sessionModificationReq SessionModificationReq.decode
  have hfar : ∀ ie ∈ Pfcp.iterIes body, parseUpdateFar n ie.value =
      ofExcept (Pfcp.parseUpdateFar ie.value) := fun ie hie =>
    grouped_eq (value_lt hn hie) (fun _ h far => parseFarIe_eq h _ far) _
  have hurr : ∀ ie ∈ Pfcp.iterIes body, parseCreateUrr n ie.value =
      ofExcept (Pfcp.parseCreateUrr ie.value) := fun ie hie =>
    grouped_eq (value_lt hn hie) (fun ie _ urr => parseCreateUrrIe_eq urr ie) _
  rw [messageIes_eq hn, ok_bind, optionalIe_eq fun ie _ => parseFseid_eq ie.value,
    collectIes_eq hfar, collectIes_eq hurr]
  simp only [ofExcept_bind, ok_bind]
  rfl

theorem validate_eq (msgType : UInt8) :
    validate n msgType body = .ok (Pfcp.validate msgType body) := by
  unfold validate Pfcp.validate
  cases lookup msgType with
  | none => rfl
  | some spec =>
    dsimp only
    rw [messageIes_eq hn, ok_bind]
    rfl

end Decoders

/-! ### Datagrams -/

/-- What `handle_message` decodes of a datagram before it looks at the server. -/
inductive Decoded where
  | heartbeat (req : HeartbeatReq)
  | associationSetup (req : AssociationSetupReq)
  | sessionEstablishment (req : SessionEstablishmentReq)
  | sessionModification (req : SessionModificationReq)
  | other

/-- `decode_header` and the decoder of the message's type.  The modification handler also slices
the body for its log. -/
def decodeMessage (n : ℕ) (data : Bytes) :
    Crash DecodeError (PfcpHeader × ValidationResult × Decoded) := do
  let (header, body) ← (decodeHeader data).mapError .ie
  let val ← validate n header.msgType body
  if header.msgType = pfcpHeartbeatReq then
    return (header, val, .heartbeat (← heartbeatReq n body))
  else if header.msgType = pfcpAssociationSetupReq then
    return (header, val, .associationSetup (← associationSetupReq n body))
  else if header.msgType = pfcpSessionEstablishmentReq then
    return (header, val, .sessionEstablishment (← sessionEstablishmentReq n body))
  else if header.msgType = pfcpSessionModificationReq then
    let _ ← slice body 0 (min body.length 64)
    return (header, val, .sessionModification (← sessionModificationReq n body))
  else return (header, val, .other)

theorem decodeMessage_safe {n : ℕ} {data : Bytes} (hn : data.length < 4 * n) :
    (decodeMessage n data).Safe := by
  unfold decodeMessage
  rw [decodeHeader_eq, ← ofExcept_mapError]
  cases hd : PfcpHeader.decode data with
  | error err => exact ⟨nofun, nofun⟩
  | ok p =>
    obtain ⟨header, body⟩ := p
    have hbody : body.length < 4 * n := by
      have := PfcpHeader.length_body_le hd
      omega
    have hsafe : ∀ {α : Type} {a : α}, (ok a : Crash DecodeError α).Safe := ⟨nofun, nofun⟩
    change (validate n header.msgType body >>= _).Safe
    rw [validate_eq hbody, ok_bind, heartbeatReq_eq hbody, associationSetupReq_eq hbody,
      sessionEstablishmentReq_eq hbody, sessionModificationReq_eq hbody,
      slice_of_le (Nat.zero_le _) (Nat.min_le_left ..), ok_bind, ok_bind]
    split_ifs
    · exact hsafe
    · exact (ofExcept_safe _).bind fun _ => hsafe
    · exact (ofExcept_safe _).bind fun _ => hsafe
    · exact (ofExcept_safe _).bind fun _ => hsafe
    · exact hsafe

/-- **No octets make a decoder panic or loop**, however many they are: with one turn of the TLV loop
for every four octets and one more, every decoder of the UPF ends with a value or an error, the same
as its total counterpart. -/
theorem decoders_never_crash (buf : Bytes) {n : ℕ} (hn : buf.length < 4 * n) :
    Computes (decodeHeader buf) (PfcpHeader.decode buf) ∧
      (∀ msgType, Computes (validate n msgType buf) (.ok (Pfcp.validate msgType buf))) ∧
      Computes (associationSetupReq n buf) (AssociationSetupReq.decode buf) ∧
      Computes (sessionEstablishmentReq n buf) (SessionEstablishmentReq.decode buf) ∧
      Computes (heartbeatReq n buf) (.ok (HeartbeatReq.decode buf)) ∧
      Computes (sessionModificationReq n buf) (SessionModificationReq.decode buf) ∧
      (decodeMessage n buf).Safe :=
  ⟨.of_eq (decodeHeader_eq buf), fun msgType => .of_eq (validate_eq hn msgType),
    .of_eq (associationSetupReq_eq hn), .of_eq (sessionEstablishmentReq_eq hn),
    .of_eq (heartbeatReq_eq hn), .of_eq (sessionModificationReq_eq hn), decodeMessage_safe hn⟩

/-- An establishment request whose one Create PDR claims an IE of 200 octets inside its own four. -/
def overlong : Bytes :=
  [0x21, 50, 0, 20, 0, 0, 0, 0, 0, 0, 0, 0, 0, 0, 1, 0, 0, 1, 0, 4, 0, 56, 0, 200]

theorem decoders_never_crash_overlong : (decodeMessage 7 overlong).Safe :=
  (decoders_never_crash overlong (by decide)).2.2.2.2.2.2

end UpfEdge.Pfcp.Checked
