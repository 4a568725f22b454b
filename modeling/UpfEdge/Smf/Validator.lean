import UpfEdge.Pfcp.Dict
import UpfEdge.Pfcp.Messages

/-!
# What the simulator takes out of a response

`smf-sim/src/validator.rs`: `validate_response` checks a response against the request it answers,
`extract_session_info` reads the UPF's identifiers of a new session, `extract_recovery_ts` the
UPF's start time.
-/

namespace UpfEdge.SmfSim

open Lib Pfcp

/-- Why `validate_response` refuses. -/
inductive ValidateError where
  | header (e : PfcpError)
  | msgType (expected got : UInt8)
  | seq (expected got : UInt32)
  | missing (name : String) (ies : List String)
  | notAccepted (cause : UInt8)
  deriving DecidableEq, Repr

/-- The `{:?}` of a list of names. -/
def debugList (names : List String) : String :=
  "[" ++ ", ".intercalate (names.map fun name => "\"" ++ name ++ "\"") ++ "]"

def ValidateError.text : ValidateError → String
  | .header e => e.text
  | .msgType expected got =>
    "msg_type 불일치: expected=" ++ toString expected ++ ", got=" ++ toString got
  | .seq expected got => "seq 불일치: expected=" ++ toString expected ++ ", got=" ++ toString got
  | .missing name ies => "Mandaytory IE 누락 in " ++ name ++ ": " ++ debugList ies
  | .notAccepted cause => "Cause=" ++ toString cause ++ " (not accepted)"

/-- A Cause passes if its first octet says accepted; a response without one passes. -/
def validateCause (ies : List RawIE) : Except ValidateError Unit :=
  match findIe ies pfcpIeCause with
  | none => .ok ()
  | some cause =>
    if cause.value.head? = some causeRequestAccepted then .ok ()
    else .error (.notAccepted (cause.value.headD 0))

def validateResponse (reqType : UInt8) (reqSeq : UInt32) (rsp : Bytes) :
    Except ValidateError Unit :=
  match PfcpHeader.decode rsp with
  | .error e => .error (.header e)
  | .ok (rspHdr, body) =>
    let expectedType := reqType + 1
    if rspHdr.msgType ≠ expectedType then .error (.msgType expectedType rspHdr.msgType)
    else if rspHdr.seqNum ≠ reqSeq then .error (.seq reqSeq rspHdr.seqNum)
    else
      let result := validate rspHdr.msgType body
      if result.isOk then validateCause (iterIes body)
      else .error (.missing (((lookup rspHdr.msgType).map (·.name)).getD "unknown") result.missing)

/-- Why `extract_session_info` finds nothing. -/
inductive ExtractError where
  | ie (e : PfcpError)
  | noFseid
  | seidZero
  | noCreatedPdr
  | noFteid
  | teidZero
  deriving DecidableEq, Repr

def ExtractError.text : ExtractError → String
  | .ie e => e.text
  | .noFseid => "No F-SEID"
  | .seidZero => "UPF SEID = 0 (Abnormal)"
  | .noCreatedPdr => "No Created PDR"
  | .noFteid => "No F-TEID"
  | .teidZero => "UPF TEID = 0 (Abnormal)"

/-- The first IE of a type, or an error. -/
def expectIe (ies : List RawIE) (t : UInt16) (missing : ExtractError) :
    Except ExtractError RawIE :=
  (findIe ies t).elim (.error missing) .ok

def extractSessionInfo (rsp : Bytes) : Except ExtractError (UInt64 × UInt32 × Ipv4Addr) := do
  let (_, body) ← (PfcpHeader.decode rsp).mapError .ie
  let ies := iterIes body
  let fseid ← expectIe ies pfcpIeFseid .noFseid
  let (upfSeid, _) ← (parseFseid fseid.value).mapError .ie
  if upfSeid = 0 then throw .seidZero
  let createdPdr ← expectIe ies pfcpIeCreatedPdr .noCreatedPdr
  let fteid ← expectIe (iterIes createdPdr.value) pfcpIeFteid .noFteid
  let (upfTeid, upfN3Addr) ← (parseFteid fteid.value).mapError .ie
  if upfTeid = 0 then throw .teidZero
  return (upfSeid, upfTeid, upfN3Addr)

def extractRecoveryTs (rsp : Bytes) : Option UInt32 :=
  match PfcpHeader.decode rsp with
  | .error _ => none
  | .ok (_, body) => optionalIe (iterIes body) pfcpIeRecoveryTimeStamp parseRecoveryTimestamp

end UpfEdge.SmfSim
