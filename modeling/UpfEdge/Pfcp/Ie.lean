import UpfEdge.Pfcp.Header

/-!
# Information elements

The TLV iterator and the leaf and grouped parsers of `pfcp-common/src/ie.rs`.  A grouped parser
is a fold over the sub-IEs of its value: each `match` arm of the source is one branch of the fold
step, a later IE of the same type overwrites an earlier one, and an error in a sub-parser stops
the fold.
-/

namespace UpfEdge.Pfcp

open Lib

/-- One parsed IE; `subIe` holds the nested IEs of a grouped type. -/
inductive RawIE where
  | mk (ieType : UInt16) (length : UInt16) (value : Bytes) (subIe : List RawIE)
  deriving Repr

namespace RawIE

def ieType : RawIE → UInt16
  | mk t _ _ _ => t

def length : RawIE → UInt16
  | mk _ l _ _ => l

def value : RawIE → Bytes
  | mk _ _ v _ => v

def subIe : RawIE → List RawIE
  | mk _ _ _ s => s

end RawIE

/-- `iter_ies`: the loop ends with fewer than four bytes left, or at an IE that declares more
bytes than are left. -/
def iterIes (buf : Bytes) : List RawIE :=
  if h4 : 4 ≤ buf.length then
    let ieType := u16OfBe [buf[0], buf[1]]
    let length := (u16OfBe [buf[2], buf[3]]).toNat
    if buf.length < 4 + length then []
    else
      let value := (buf.drop 4).take length
      let subIe := if isGroupedIe ieType then iterIes value else []
      .mk ieType (UInt16.ofNat length) value subIe :: iterIes (buf.drop (4 + length))
  else []
termination_by buf.length
decreasing_by
  all_goals
    simp only [List.length_take, List.length_drop]
    omega

/-- The loop of `iter_ies` at four octets. -/
theorem iterIes_cons (t₀ t₁ l₀ l₁ : UInt8) (rest : Bytes) :
    iterIes (t₀ :: t₁ :: l₀ :: l₁ :: rest) =
      if rest.length < (u16OfBe [l₀, l₁]).toNat then []
      else
        .mk (u16OfBe [t₀, t₁]) (UInt16.ofNat (u16OfBe [l₀, l₁]).toNat)
            (rest.take (u16OfBe [l₀, l₁]).toNat)
            (if isGroupedIe (u16OfBe [t₀, t₁]) then
              iterIes (rest.take (u16OfBe [l₀, l₁]).toNat) else []) ::
          iterIes (rest.drop (u16OfBe [l₀, l₁]).toNat) := by
  rw [iterIes, dif_pos (by simp)]
  generalize hlen : (u16OfBe [l₀, l₁]).toNat = length
  simp only [List.getElem_cons_zero, List.getElem_cons_succ, hlen, List.length_cons,
    List.drop_succ_cons, List.drop_zero]
  have hroom : rest.length + 1 + 1 + 1 + 1 < 4 + length ↔ rest.length < length := by omega
  have hdrop : (t₀ :: t₁ :: l₀ :: l₁ :: rest).drop (4 + length) = rest.drop length := by
    rw [← List.drop_drop]
    rfl
  simp only [hroom, hdrop]

theorem iterIes_of_short {buf : Bytes} (h : ¬ 4 ≤ buf.length) : iterIes buf = [] := by
  rw [iterIes, dif_neg h]

/-- Every IE takes four octets at least. -/
theorem length_iterIes (buf : Bytes) : (iterIes buf).length * 4 ≤ buf.length := by
  fun_induction iterIes buf with
  | case1 buf h4 length hlen => exact Nat.zero_le _
  | case2 buf h4 ieType length hlen value subIe _ ih =>
    rw [List.length_drop] at ih
    rw [List.length_cons]
    omega
  | case3 buf h4 => exact Nat.zero_le _

/-! ### Parsed values -/

structure SdfFilter where
  proto : UInt8
  srcIp : Ipv4Addr
  dstIp : Ipv4Addr
  srcPort : UInt16
  dstPort : UInt16
  deriving DecidableEq, Repr

structure OuterHeaderCreation where
  teid : UInt32
  peerAddr : Ipv4Addr
  port : UInt16
  deriving DecidableEq, Repr

structure ParsedPDR where
  pdrId : UInt16 := 0
  precedence : UInt32 := 0
  sourceInterface : UInt8 := 0
  localFteid : Option (UInt32 × Ipv4Addr) := none
  ueIp : Option Ipv4Addr := none
  farId : Option UInt32 := none
  urrId : Option UInt32 := none
  outerHeaderRemoval : Bool := false
  sdfFilter : Option SdfFilter := none
  deriving DecidableEq, Repr

structure ParsedFAR where
  farId : UInt32 := 0
  applyAction : UInt8 := 0
  destInterface : Option UInt8 := none
  outerHeaderCreation : Option OuterHeaderCreation := none
  deriving DecidableEq, Repr

structure ParsedURR where
  urrId : UInt32 := 0
  measurementMethod : UInt8 := 0
  reportingTriggers : UInt8 := 0
  volumeThresholdTotal : Option UInt64 := none
  measurementPeriod : Option UInt32 := none
  deriving DecidableEq, Repr

/-! ### Leaf parsers -/

def parseNodeId (v : Bytes) : Except PfcpError Ipv4Addr :=
  if h : v.length < 5 then .error (.ieParseError pfcpIeNodeId "too short")
  else
    let nodeType := v[0] &&& 0x0F
    if nodeType ≠ 0 then
      .error (.ieParseError pfcpIeNodeId
        ("unsupported type " ++ toString nodeType ++ " (only IPv4)"))
    else .ok ⟨v[1], v[2], v[3], v[4]⟩

def parseRecoveryTimestamp (v : Bytes) : Except PfcpError UInt32 :=
  if h : v.length < 4 then .error (.ieParseError pfcpIeRecoveryTimeStamp "too short")
  else .ok (u32OfBe [v[0], v[1], v[2], v[3]])

def parseFseid (v : Bytes) : Except PfcpError (UInt64 × Ipv4Addr) :=
  if h : v.length < 13 then .error (.ieParseError pfcpIeFseid "too short")
  else .ok (u64OfBe [v[1], v[2], v[3], v[4], v[5], v[6], v[7], v[8]],
    ⟨v[9], v[10], v[11], v[12]⟩)

def parseFteid (v : Bytes) : Except PfcpError (UInt32 × Ipv4Addr) :=
  if h : v.length < 5 then .error (.ieParseError pfcpIeFteid "too short")
  else
    let teid := u32OfBe [v[1], v[2], v[3], v[4]]
    -- the CHOOSE flag: the UPF is to allocate the TEID
    if v[0] &&& 0x04 ≠ 0 then .ok (0, .unspecified)
    else if h9 : 9 ≤ v.length then .ok (teid, ⟨v[5], v[6], v[7], v[8]⟩)
    else .error (.ieParseError pfcpIeFteid "no IPv4 address")

def parseUeIpAddress (v : Bytes) : Except PfcpError Ipv4Addr :=
  if h : v.length < 5 then .error (.ieParseError pfcpIeUeIpAddress "too short")
  else if v[0] &&& 0x02 ≠ 0 then .ok ⟨v[1], v[2], v[3], v[4]⟩
  else .error (.ieParseError pfcpIeUeIpAddress "no IPv4")

def parseOuterHeaderCreation (v : Bytes) : Except PfcpError OuterHeaderCreation :=
  if h : v.length < 10 then .error (.ieParseError pfcpIeOuterHeaderCreation "too short")
  else .ok
    { teid := u32OfBe [v[2], v[3], v[4], v[5]], peerAddr := ⟨v[6], v[7], v[8], v[9]⟩, port := 2152 }

def parseApplyAction (v : Bytes) : Except PfcpError UInt8 :=
  if h : v.length = 0 then .error (.ieParseError pfcpIeApplyAction "empty")
  else .ok v[0]

def parseSdfFilter (v : Bytes) : Except PfcpError SdfFilter :=
  if h : v.length < 13 then .error (.ieParseError pfcpIeSdfFilter "too short")
  else .ok
    { proto := v[0]
      srcIp := ⟨v[1], v[2], v[3], v[4]⟩
      dstIp := ⟨v[5], v[6], v[7], v[8]⟩
      srcPort := u16OfBe [v[9], v[10]]
      dstPort := u16OfBe [v[11], v[12]] }

def parseVolumeThreshold (v : Bytes) : Except PfcpError (Option UInt64) :=
  if h : v.length = 0 then .ok none
  else if v[0] &&& volumeThresholdTovol ≠ 0 then
    if h9 : v.length < 1 + 8 then .error (.bufferTooShort (1 + 8) v.length)
    else .ok (some (u64OfBe [v[1], v[2], v[3], v[4], v[5], v[6], v[7], v[8]]))
  else .ok none

/-- The first octets of a fixed-width field, when the value is long enough for it. -/
def field16 (v : Bytes) : Option UInt16 :=
  if h : 2 ≤ v.length then some (u16OfBe [v[0], v[1]]) else none

def field32 (v : Bytes) : Option UInt32 :=
  if h : 4 ≤ v.length then some (u32OfBe [v[0], v[1], v[2], v[3]]) else none

/-! ### Grouped parsers -/

def parsePdiIe (pdr : ParsedPDR) (ie : RawIE) : Except PfcpError ParsedPDR := do
  if ie.ieType = pfcpIeSourceInterface then
    return match ie.value.head? with
      | some b => { pdr with sourceInterface := b &&& 0x0F }
      | none => pdr
  else if ie.ieType = pfcpIeFteid then
    return { pdr with localFteid := some (← parseFteid ie.value) }
  else if ie.ieType = pfcpIeUeIpAddress then
    return { pdr with ueIp := some (← parseUeIpAddress ie.value) }
  else if ie.ieType = pfcpIeSdfFilter then
    return { pdr with sdfFilter := some (← parseSdfFilter ie.value) }
  else return pdr

def parsePdi (value : Bytes) (pdr : ParsedPDR) : Except PfcpError ParsedPDR :=
  (iterIes value).foldlM parsePdiIe pdr

def parseCreatePdrIe (pdr : ParsedPDR) (ie : RawIE) : Except PfcpError ParsedPDR := do
  if ie.ieType = pfcpIePdrId then
    return { pdr with pdrId := (field16 ie.value).getD pdr.pdrId }
  else if ie.ieType = pfcpIePrecedence then
    return { pdr with precedence := (field32 ie.value).getD pdr.precedence }
  else if ie.ieType = pfcpIePdi then
    parsePdi ie.value pdr
  else if ie.ieType = pfcpIeFarId then
    return { pdr with farId := (field32 ie.value).or pdr.farId }
  else if ie.ieType = pfcpIeUrrId then
    return { pdr with urrId := (field32 ie.value).or pdr.urrId }
  else if ie.ieType = pfcpIeOuterHeaderRemoval then
    return { pdr with outerHeaderRemoval := true }
  else if ie.ieType = pfcpIeSdfFilter then
    return { pdr with sdfFilter := some (← parseSdfFilter ie.value) }
  else return pdr

def parseCreatePdr (value : Bytes) : Except PfcpError ParsedPDR :=
  (iterIes value).foldlM parseCreatePdrIe {}

def parseCreateUrrIe (urr : ParsedURR) (ie : RawIE) : Except PfcpError ParsedURR := do
  if ie.ieType = pfcpIeUrrId then
    return { urr with urrId := (field32 ie.value).getD urr.urrId }
  else if ie.ieType = pfcpIeMeasurementMethod then
    return { urr with measurementMethod := ie.value.head?.getD urr.measurementMethod }
  else if ie.ieType = pfcpIeReportingTriggers then
    return { urr with reportingTriggers := ie.value.head?.getD urr.reportingTriggers }
  else if ie.ieType = pfcpIeVolumeThreshold then
    return { urr with volumeThresholdTotal := ← parseVolumeThreshold ie.value }
  else if ie.ieType = pfcpIeMeasurementPeriod then
    return { urr with measurementPeriod := (field32 ie.value).or urr.measurementPeriod }
  else return urr

def parseCreateUrr (value : Bytes) : Except PfcpError ParsedURR :=
  (iterIes value).foldlM parseCreateUrrIe {}

def parseForwardingParamsIe (far : ParsedFAR) (ie : RawIE) : Except PfcpError ParsedFAR := do
  if ie.ieType = pfcpIeDestinationInterface then
    return match ie.value.head? with
      | some b => { far with destInterface := some (b &&& 0x0F) }
      | none => far
  else if ie.ieType = pfcpIeOuterHeaderCreation then
    return { far with outerHeaderCreation := some (← parseOuterHeaderCreation ie.value) }
  else return far

def parseForwardingParams (value : Bytes) (far : ParsedFAR) : Except PfcpError ParsedFAR :=
  (iterIes value).foldlM parseForwardingParamsIe far

/-- The step Create FAR and Update FAR share; they differ in the type of the grouped IE that holds
the forwarding parameters. -/
def parseFarIe (forwardingIe : UInt16) (far : ParsedFAR) (ie : RawIE) :
    Except PfcpError ParsedFAR := do
  if ie.ieType = pfcpIeFarId then
    return { far with farId := (field32 ie.value).getD far.farId }
  else if ie.ieType = pfcpIeApplyAction then
    return { far with applyAction := ← parseApplyAction ie.value }
  else if ie.ieType = forwardingIe then
    parseForwardingParams ie.value far
  else return far

def parseCreateFar (value : Bytes) : Except PfcpError ParsedFAR :=
  (iterIes value).foldlM (parseFarIe pfcpIeForwardingParameters) {}

def parseUpdateFar (value : Bytes) : Except PfcpError ParsedFAR :=
  (iterIes value).foldlM (parseFarIe pfcpIeUpdateForwardingParameters) {}

end UpfEdge.Pfcp
