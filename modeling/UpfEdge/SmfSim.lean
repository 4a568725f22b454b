import UpfEdge.System

/-!
# The SMF simulator

The requests `smf-sim/src/main.rs` sends, as events of the system.  The simulator numbers its
sessions from 1, so two of them that run against one UPF choose the same SEIDs; concrete exchanges
below are between simulators at 10.0.0.11 and 10.0.0.12 and a UPF on a little-endian host with one
CPU.  The frames are TCP segments between a UE and a server on the data network.
-/

namespace UpfEdge.SmfSim

open Lib Pfcp Server Xdp

def measurementMethodVolum : UInt8 := 0x02

/-! ### Requests -/

/-- The request `send_heartbeat` sends. -/
def heartbeat (recoveryTs : UInt32) : Bytes :=
  finish (addRecoveryTimestamp (PfcpHeader.newNodeMsg pfcpHeartbeatReq 1).encode recoveryTs)

/-- The request `send_association_setup` sends. -/
def associationSetup (smfAddr : Ipv4Addr) (recoveryTs : UInt32) : Bytes :=
  let msg := (PfcpHeader.newNodeMsg pfcpAssociationSetupReq 1).encode
  let msg := addNodeIdV4 msg smfAddr
  let msg := addRecoveryTimestamp msg recoveryTs
  finish msg

/-- The request `send_session_establishment` sends: TCP is forwarded and charged to URR 1, other
uplink traffic is dropped, downlink traffic is forwarded and charged to URR 1. -/
def sessionEstablishment (cpSeid : UInt64) (smfAddr ueIp gnbAddr : Ipv4Addr) (gnbTeid : UInt32) :
    Bytes :=
  let msg := (PfcpHeader.newSessionMsg pfcpSessionEstablishmentReq 0 2).encode
  let msg := addNodeIdV4 msg smfAddr
  let msg := addFseid msg cpSeid smfAddr
  let msg := addCreatePdr msg
    { pdrId := 1, precedence := 100, sourceInterface := interfaceAccess, fteidChoose := false
      ueIp := some ueIp, farId := 1, urrId := some 1, outerHeaderRemoval := false
      sdfFilter := some
        { proto := 6, srcIp := .unspecified, dstIp := .unspecified, srcPort := 0, dstPort := 0 } }
  let msg := addCreatePdr msg
    { pdrId := 2, precedence := 200, sourceInterface := interfaceAccess, fteidChoose := false
      ueIp := some ueIp, farId := 3, urrId := none, outerHeaderRemoval := false, sdfFilter := none }
  let msg := addCreatePdr msg
    { pdrId := 3, precedence := 100, sourceInterface := interfaceCore, fteidChoose := false
      ueIp := some ueIp, farId := 2, urrId := some 1, outerHeaderRemoval := false
      sdfFilter := none }
  let msg := addCreateFar msg
    { farId := 1, applyAction := actionForw, destInterface := interfaceCore
      outerHeaderCreation := none }
  let msg := addCreateFar msg
    { farId := 2, applyAction := actionForw, destInterface := interfaceAccess
      outerHeaderCreation := some { teid := gnbTeid, peerAddr := gnbAddr, port := 2152 } }
  let msg := addCreateFar msg
    { farId := 3, applyAction := actionDrop, destInterface := interfaceCore
      outerHeaderCreation := none }
  let msg := addCreateUrr msg
    { urrId := 1, measurementMethod := measurementMethodVolum
      reportingTriggers := reportingTriggerVolth ||| reportingTriggerPerio
      volumeThresholdTotal := some 10000, measurementPeriod := some 30 }
  finish msg

/-- An establishment request with rules of an SMF's own choice. -/
def establishmentWith (cpSeid : UInt64) (smfAddr : Ipv4Addr) (pdrs : List PdrParams)
    (fars : List FarParams) (urrs : List UrrParams) : Bytes :=
  let msg := (PfcpHeader.newSessionMsg pfcpSessionEstablishmentReq 0 2).encode
  let msg := addNodeIdV4 msg smfAddr
  let msg := addFseid msg cpSeid smfAddr
  let msg := pdrs.foldl addCreatePdr msg
  let msg := fars.foldl addCreateFar msg
  finish (urrs.foldl addCreateUrr msg)

/-- The request `send_session_modification` sends. -/
def sessionModification (seid : UInt64) (volth : Option UInt64) (period : Option UInt32) : Bytes :=
  let msg := (PfcpHeader.newSessionMsg pfcpSessionModificationReq seid 3).encode
  finish (addUpdateUrr msg
    { urrId := 1, measurementMethod := measurementMethodVolum
      reportingTriggers := reportingTriggerVolth ||| reportingTriggerPerio
      volumeThresholdTotal := volth, measurementPeriod := period })

/-- The Session Modification Request of the `basic_lifecycle` scenario: a new tunnel to the gNB. -/
def tunnelModification (seid : UInt64) (gnbAddr : Ipv4Addr) : Bytes :=
  let msg := (PfcpHeader.newSessionMsg pfcpSessionModificationReq seid 4).encode
  finish (addUpdateFar msg
    { farId := 2, applyAction := actionForw, destInterface := interfaceAccess
      outerHeaderCreation := some { teid := 0xdeadbeef, peerAddr := gnbAddr, port := 2152 } })

/-- The request `send_session_deletion` sends. -/
def sessionDeletion (upfSeid : UInt64) : Bytes :=
  finish (PfcpHeader.newSessionMsg pfcpSessionDeletionReq upfSeid 99).encode

/-! ### Two simulators and a UPF -/

def smfA : Ipv4Addr := ⟨10, 0, 0, 11⟩
def smfB : Ipv4Addr := ⟨10, 0, 0, 12⟩
def ue1 : Ipv4Addr := ⟨10, 60, 0, 1⟩
def ue2 : Ipv4Addr := ⟨10, 60, 0, 2⟩
def gnb : Ipv4Addr := ⟨10, 0, 0, 20⟩

def host : Host := { endian := .little, ncpus := 1 }

def boot : Boot where
  n3Addr := ⟨10, 0, 0, 1⟩
  unixNow := 0
  now := 0
  store := false
  ifIndex := #v[1, 2]
  gwMac := #v[⟨[2, 0, 0, 0, 0, 1], rfl⟩, ⟨[2, 0, 0, 0, 0, 2], rfl⟩]

def env : Env := { assocOrder := .asStored, idOrder := .asStored, now := fun _ => 0 }

/-- A simulator sends from the PFCP port of its node. -/
def peer (smf : Ipv4Addr) : SocketAddr := .v4 smf 8805

def sends (smf : Ipv4Addr) (msg : Bytes) : Event := .datagram env 0 msg (peer smf)

def setup (smf : Ipv4Addr) (recoveryTs : UInt32) : Event :=
  sends smf (associationSetup smf recoveryTs)

/-- Simulator `smf` establishes a session for `ueIp` under its own number `cpSeid`. -/
def establish (smf : Ipv4Addr) (cpSeid : UInt64) (ueIp : Ipv4Addr) : Event :=
  sends smf (sessionEstablishment cpSeid smf ueIp gnb 0x80000001)

/-- A PDR for all packets of one direction. -/
def anyPacket (pdrId : UInt16) (precedence : UInt32) (sourceInterface : UInt8) (ueIp : Ipv4Addr)
    (farId : UInt32) : PdrParams where
  pdrId := pdrId
  precedence := precedence
  sourceInterface := sourceInterface
  fteidChoose := false
  ueIp := some ueIp
  farId := farId
  urrId := none
  outerHeaderRemoval := false
  sdfFilter := none

/-- A FAR that sends to the gNB under a TEID. -/
def toGnb (farId : UInt32) (teid : UInt32) : FarParams where
  farId := farId
  applyAction := actionForw
  destInterface := interfaceAccess
  outerHeaderCreation := some { teid, peerAddr := gnb, port := 2152 }

/-! ### Frames -/

/-- A machine whose buffers have 256 bytes of headroom. -/
def machine : XdpEnv where
  cpu := 0
  adjustHead f delta :=
    if 0 ≤ delta then
      if delta.toNat + ethHdrLen ≤ f.length then some (f.drop delta.toNat) else none
    else if (-delta).toNat ≤ 256 then some (List.replicate (-delta).toNat 0 ++ f) else none
  adjustHead_strip {f f' n} h := by
    rw [if_pos (Int.natCast_nonneg n)] at h
    split_ifs at h
    exact (Option.some.inj h).symm
  adjustHead_grow {f f' n} h := by
    split_ifs at h with hpos
    · have hn : n = 0 := by omega
      subst hn
      exact ⟨[], rfl, (Option.some.inj h).symm⟩
    · exact ⟨_, by simp, (Option.some.inj h).symm⟩

def server : Ipv4Addr := ⟨8, 8, 8, 8⟩

def ethernet : Bytes := [2, 0, 0, 0, 0, 9, 2, 0, 0, 0, 0, 8, 0x08, 0x00]

/-- An IPv4 packet without options. -/
def ipv4 (proto : UInt8) (src dst : Ipv4Addr) (payload : Bytes) : Bytes :=
  [0x45, 0, 0, 20 + UInt8.ofNat payload.length, 0, 0, 0, 0, 64, proto, 0, 0] ++ src.octets ++
    dst.octets ++ payload

/-- The start of a TCP segment, as far as the programs read it. -/
def tcpPorts : Bytes := [0x30, 0x39, 0x00, 0x50]

/-- The UE sends a segment to the server: on N3, in a GTP-U tunnel from the gNB. -/
def uplinkFrame (ueIp : Ipv4Addr) : Bytes :=
  let inner := ipv4 6 ueIp server tcpPorts
  let gtpu : Bytes := [0x30, gtpuGpdu, 0, UInt8.ofNat inner.length, 0, 0, 0x03, 0xE8]
  let udp : Bytes := [0x08, 0x68, 0x08, 0x68, 0, 16 + UInt8.ofNat inner.length, 0, 0]
  ethernet ++ ipv4 17 gnb ⟨10, 0, 0, 1⟩ (udp ++ gtpu ++ inner)

/-- The server sends a segment to the UE: on N6. -/
def downlinkFrame (ueIp : Ipv4Addr) : Bytes := ethernet ++ ipv4 6 server ueIp tcpPorts

end UpfEdge.SmfSim
