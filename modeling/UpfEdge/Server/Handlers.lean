import UpfEdge.Server.State

/-!
# The PFCP message handlers

`upf-edge/src/handle_msg.rs`.  A handler maps the world to a response or an error *and* a world:
an error does not undo what was done before it.

Two handlers work on the eBPF maps step by step, and the steps matter to whatever runs beside
them.  Establishment is a list of inserts (`installSteps`, run by `install`, which stops at the
first insert that fails); deletion is a critical section on the server (`deletionLock`) followed by
the sections of a `Deletion`, each under the lock of one map.
-/

namespace UpfEdge.Server

open Lib Pfcp

/-- A handler's answer and the world it leaves. -/
abbrev Outcome : Type := Except HandleError Bytes × World

/-! ### Node messages -/

/-- The association table after a Heartbeat Request from `src`: the association found for an IPv4
source loses its sessions when the Recovery Time Stamp differs from the stored one. -/
def heartbeatAssociations (env : Env) (src : SocketAddr) (recvTs : Option UInt32)
    (srv : PfcpServer) : Table Ipv4Addr SmfAssociation :=
  match src with
  | .v6 .. => srv.associations
  | .v4 .. =>
    match findAssociation env srv src, recvTs with
    | some ⟨k, assoc⟩, some recv =>
      if assoc.recoveryTs ≠ recv then
        srv.associations.insert k { assoc with sessions := ∅, recoveryTs := recv }
      else srv.associations
    | _, _ => srv.associations

def handleHeartbeat (env : Env) (header : PfcpHeader) (body : Bytes) (src : SocketAddr)
    (w : World) : Outcome :=
  let recvTs := (HeartbeatReq.decode body).recoveryTs
  (.ok (buildHeartbeatResponse header.seqNum w.srv.recoveryTs),
    { w with srv := { w.srv with associations := heartbeatAssociations env src recvTs w.srv } })

/-- The server after an Association Setup that is not answered as a duplicate. -/
def associate (nodeId : Ipv4Addr) (src : SocketAddr) (recoveryTs : UInt32) (srv : PfcpServer) :
    PfcpServer :=
  { srv with
    associations := srv.associations.insert nodeId (.new nodeId src recoveryTs)
    peerAddr := some (.v4 nodeId 8805) }

/-- An Association Setup with the Recovery Time Stamp already stored for its node is a duplicate.
An older one is logged as rejected and then handled like a newer one: the return that would reject
it is commented out. -/
def isDuplicateSetup (req : AssociationSetupReq) (srv : PfcpServer) : Bool :=
  match srv.associations.lookup req.nodeId with
  | some existing => req.recoveryTs = existing.recoveryTs
  | none => false

def handleSessionAssociation (header : PfcpHeader) (body : Bytes) (src : SocketAddr) (w : World) :
    Outcome :=
  match AssociationSetupReq.decode body with
  | .error err => (.error (.decode err), w)
  | .ok req =>
    let response := buildAssociationSetupResponse header.seqNum w.srv.n3Addr w.srv.recoveryTs
    if isDuplicateSetup req w.srv then (.ok response, w)
    else (.ok response, { w with srv := associate req.nodeId src req.recoveryTs w.srv })

/-! ### Establishment -/

/-- One insert of an establishment.  The URR insert is followed, under the same server lock, by
the insert into `urr_configs`. -/
inductive InstallStep where
  | session (key : SessionKey) (info : SessionInfo)
  | pdr (key : PdrKey) (value : PdrValue)
  | far (key : FarKey) (value : FarValue)
  | urr (key : UrrKey) (config : UrrConfig)

/-- `none` when the map is full. -/
def InstallStep.apply : InstallStep → World → Option World
  | .session key info, w =>
    (w.maps.sessionMap.insert key info).map fun m =>
      { w with maps := { w.maps with sessionMap := m } }
  | .pdr key value, w =>
    (w.maps.pdrMap.insert key value).map fun m => { w with maps := { w.maps with pdrMap := m } }
  | .far key value, w =>
    (w.maps.farMap.insert key value).map fun m => { w with maps := { w.maps with farMap := m } }
  | .urr key config, w =>
    (w.maps.urrMap.insert key fun _ => {}).map fun m =>
      { w with
        maps := { w.maps with urrMap := m }
        srv := { w.srv with
          urrConfigs := w.srv.urrConfigs.insert (config.seid, config.urrId) config } }

/-- Run inserts up to the first that fails; whether all of them succeeded. -/
def install : List InstallStep → World → Bool × World
  | [], w => (true, w)
  | s :: ss, w =>
    match s.apply w with
    | some w' => install ss w'
    | none => (false, w)

/-- `pdr_ids`: the ids of the first eight PDRs, then zeros. -/
def pdrIds (createPdrs : List ParsedPDR) : Vector UInt32 maxPdrPerSession :=
  Vector.ofFn fun i => (createPdrs[i.val]?.map fun p => p.pdrId.toUInt32).getD 0

def sessionInfo (e : Endian) (n3Addr : Ipv4Addr) (localSeid : UInt64) (teid : UInt32)
    (gnbInfo : OuterHeaderCreation) (createPdrs : List ParsedPDR) : SessionInfo where
  seid := localSeid
  teid := e.toBe32 teid
  gnbIp := e.toBe32 gnbInfo.peerAddr.toU32
  upfIp := e.toBe32 n3Addr.toU32
  pdrIds := pdrIds createPdrs
  pdrCount := UInt8.ofNat (min createPdrs.length maxPdrPerSession)

def pdrValue (e : Endian) (ueIp : Ipv4Addr) (pdr : ParsedPDR) : PdrValue where
  precedence := pdr.precedence
  sourceInterface := pdr.sourceInterface
  ueIp := e.toBe32 ueIp.toU32
  qfi := 0
  farId := pdr.farId.getD 0
  qerId := 0
  urrId := pdr.urrId.getD 0
  outerHeaderRemoval := if pdr.outerHeaderRemoval then 1 else 0
  sdfProto := (pdr.sdfFilter.map (·.proto)).getD 0
  sdfSrcIp := (pdr.sdfFilter.map fun f => e.toBe32 f.srcIp.toU32).getD 0
  sdfDstIp := (pdr.sdfFilter.map fun f => e.toBe32 f.dstIp.toU32).getD 0
  sdfSrcPort := (pdr.sdfFilter.map (·.srcPort)).getD 0
  sdfDstPort := (pdr.sdfFilter.map (·.dstPort)).getD 0

def farValue (e : Endian) (n3Addr : Ipv4Addr) (far : ParsedFAR) : FarValue where
  applyAction := far.applyAction
  dstInterface := far.destInterface.getD 0
  gnbIp := (far.outerHeaderCreation.map fun o => e.toBe32 o.peerAddr.toU32).getD 0
  teid := (far.outerHeaderCreation.map fun o => e.toBe32 o.teid).getD 0
  upfN3Ip := e.toBe32 n3Addr.toU32

def urrConfig (localSeid cpSeid : UInt64) (now : Instant) (urr : ParsedURR) : UrrConfig where
  urrId := urr.urrId
  seid := localSeid
  cpSeid := cpSeid
  measurementMethod := urr.measurementMethod
  reportingTriggers := urr.reportingTriggers
  volumeThresholdTotal := urr.volumeThresholdTotal
  measurementPeriod := urr.measurementPeriod
  lastReport := now
  thresholdReported := false
  urSeqn := 0

/-- The inserts of an establishment, in the order the handler makes them. -/
def installSteps (e : Endian) (env : Env) (n3Addr : Ipv4Addr) (localSeid : UInt64) (teid : UInt32)
    (ueIp : Ipv4Addr) (gnbInfo : OuterHeaderCreation) (req : SessionEstablishmentReq) :
    List InstallStep :=
  .session (.ofIp e ueIp) (sessionInfo e n3Addr localSeid teid gnbInfo req.createPdrs) ::
    ((req.createPdrs.map fun pdr =>
        .pdr (.new localSeid pdr.pdrId.toUInt32) (pdrValue e ueIp pdr)) ++
      (req.createFars.map fun far => .far (.new localSeid far.farId) (farValue e n3Addr far)) ++
      (req.createUrrs.zipIdx.map fun p =>
        .urr (.new localSeid p.1.urrId) (urrConfig localSeid req.cpSeid (env.now p.2) p.1)))

/-- Both counters advanced by one: what every establishment does before it looks at its PDRs. -/
def allocated (w : World) : World := { w with srv := w.srv.allocSeid.2.allocTeid.2 }

/-- The last part of an accepted establishment: the session enters the session table and the table
of its association, is handed to the store, and is counted. -/
def registerSession (nodeId : Ipv4Addr) (localSeid : UInt64) (data : SessionData) (w : World) :
    World where
  srv := { w.srv with
    sessions := w.srv.sessions.insert localSeid data
    associations := w.srv.associations.modify nodeId fun a =>
      { a with sessions := a.sessions.insert data.cpSeid data } }
  maps := w.maps
  gauge := w.gauge + 1
  tasks := if w.srv.sessionStore then w.tasks ++ [.save localSeid data] else w.tasks

/-- `created_pdrs`: one entry for each PDR on the access side. -/
def createdPdrs (n3Addr : Ipv4Addr) (teid : UInt32) (createPdrs : List ParsedPDR) :
    List (UInt16 × UInt32 × Ipv4Addr) :=
  (createPdrs.filter (·.sourceInterface = interfaceAccess)).map fun p => (p.pdrId, teid, n3Addr)

def handleSessionEstablishment (e : Endian) (env : Env) (header : PfcpHeader) (body : Bytes)
    (src : SocketAddr) (w : World) : Outcome :=
  match SessionEstablishmentReq.decode body with
  | .error err => (.error (.decode err), w)
  | .ok req =>
    match src with
    | .v6 .. => (.error .establishmentNonIpv4, w)
    | .v4 ip port =>
      match findAssociation env w.srv (.v4 ip port) with
      | none => (.error (.establishmentWithoutAssociation ip port), w)
      | some assoc =>
        let localSeid := w.srv.nextSeid
        let teid := w.srv.nextTeid
        match req.createPdrs.findSome? (·.ueIp) with
        | none => (.error .noUeIp, allocated w)
        | some ueIp =>
          match req.createFars.findSome? (·.outerHeaderCreation) with
          | none => (.error .noOuterHeaderCreation, allocated w)
          | some gnbInfo =>
            match install (installSteps e env w.srv.n3Addr localSeid teid ueIp gnbInfo req)
                (allocated w) with
            | (false, w') => (.error .mapInsert, w')
            | (true, w') =>
              let data : SessionData :=
                { ueIp, teid, gnbIp := gnbInfo.peerAddr, cpSeid := req.cpSeid }
              (.ok (buildSessionEstablishmentResponse header.seqNum req.cpSeid localSeid
                  w.srv.n3Addr (createdPdrs w.srv.n3Addr teid req.createPdrs)),
                registerSession assoc.2.nodeId localSeid data w')

/-! ### Modification -/

/-- One Update FAR.  Without an Outer Header Creation it does nothing; rows that are not there
stay absent, and overwriting one that is there cannot fail. -/
def updateFar (e : Endian) (localSeid : UInt64) (sessionKey : SessionKey) (far : ParsedFAR)
    (w : World) : World :=
  match far.outerHeaderCreation with
  | none => w
  | some ohc =>
    let newGnbIp := e.toBe32 ohc.peerAddr.toU32
    let newTeid := e.toBe32 ohc.teid
    let farMap := w.maps.farMap.modify (.new localSeid far.farId) fun fv =>
      { fv with gnbIp := newGnbIp, teid := newTeid }
    if far.destInterface = some ifaceAccess then
      { w with
        maps := { w.maps with
          farMap := farMap
          sessionMap := w.maps.sessionMap.modify sessionKey fun info =>
            { info with gnbIp := newGnbIp, teid := newTeid } }
        srv := { w.srv with
          sessions := w.srv.sessions.modify localSeid fun sess =>
            { sess with gnbIp := ohc.peerAddr, teid := ohc.teid } } }
    else { w with maps := { w.maps with farMap := farMap } }

/-- One Update URR. -/
def updateUrr (localSeid : UInt64) (urr : ParsedURR) (w : World) : World :=
  { w with
    srv := { w.srv with
      urrConfigs := w.srv.urrConfigs.modify (localSeid, urr.urrId) fun cfg =>
        { cfg with
          measurementMethod := urr.measurementMethod
          reportingTriggers := urr.reportingTriggers
          volumeThresholdTotal := urr.volumeThresholdTotal
          measurementPeriod := urr.measurementPeriod
          thresholdReported := false } } }

/-- What an accepted modification does. -/
def modifySession (e : Endian) (localSeid : UInt64) (ueIp : Ipv4Addr)
    (req : SessionModificationReq) (w : World) : World :=
  let w := req.updateFars.foldl (fun w far => updateFar e localSeid (.ofIp e ueIp) far w) w
  req.updateUrrs.foldl (fun w urr => updateUrr localSeid urr w) w

def handleSessionModification (e : Endian) (env : Env) (header : PfcpHeader) (body : Bytes)
    (src : SocketAddr) (w : World) : Outcome :=
  match SessionModificationReq.decode body with
  | .error err => (.error (.decode err), w)
  | .ok req =>
    match header.seid with
    | none => (.error .modificationMissingSeid, w)
    | some localSeid =>
      match w.srv.sessions.lookup localSeid with
      | none => (.error (.modificationUnknownSeid localSeid), w)
      | some sessionData =>
        match src with
        | .v6 .. => (.error .modificationNonIpv4, w)
        | .v4 ip port =>
          match findAssociation env w.srv (.v4 ip port) with
          | none => (.error (.modificationWithoutAssociation ip port), w)
          | some assoc =>
            if (assoc.2.sessions.lookup sessionData.cpSeid).isSome then
              (.ok (buildSessionModificationResponse header.seqNum sessionData.cpSeid),
                modifySession e localSeid sessionData.ueIp req w)
            else
              (.error (.modificationOwnership ip port sessionData.cpSeid assoc.2.nodeId), w)

/-! ### Deletion -/

/-- The server after the first critical section of an accepted deletion. -/
def unregisterSession (nodeId : Ipv4Addr) (seid : UInt64) (cpSeid : UInt64) (w : World) : World :=
  { w with
    srv := { w.srv with
      sessions := w.srv.sessions.erase seid
      associations := w.srv.associations.modify nodeId fun a =>
        { a with sessions := a.sessions.erase cpSeid } }
    gauge := w.gauge - 1 }

/-- The critical section on the server: look the session up, check the source against it, and
remove it from both tables. -/
def deletionLock (env : Env) (seid : UInt64) (src : SocketAddr) (w : World) :
    Except HandleError SessionData × World :=
  match w.srv.sessions.lookup seid with
  | none => (.error (.deletionUnknownSeid seid), w)
  | some existing =>
    match src with
    | .v6 .. => (.error .deletionNonIpv4, w)
    | .v4 ip port =>
      match findAssociation env w.srv (.v4 ip port) with
      | none => (.error (.deletionWithoutAssociation ip port), w)
      | some assoc =>
        if (assoc.2.sessions.lookup existing.cpSeid).isSome then
          (.ok existing, unregisterSession assoc.2.nodeId seid existing.cpSeid w)
        else (.error (.deletionNotOwned existing.cpSeid ip port), w)

/-- The local variables of a deletion once it has left the server lock. -/
structure Deletion where
  seid : UInt64
  key : SessionKey
  pdrIds : List UInt32
  farIds : List UInt32
  urrIds : List UInt32

def Deletion.start (e : Endian) (seid : UInt64) (data : SessionData) : Deletion where
  seid := seid
  key := .ofIp e data.ueIp
  pdrIds := []
  farIds := []
  urrIds := []

namespace Deletion

/-- Read the PDR ids from the session's SESSION_MAP row; without a row there are none. -/
def readSession (d : Deletion) (m : Maps) : Deletion :=
  { d with pdrIds := ((m.sessionMap.lookup d.key).map (·.listed)).getD [] }

/-- The PDR rows those ids name. -/
def listedPdrs (d : Deletion) (m : Maps) : List PdrValue :=
  d.pdrIds.filterMap fun id => m.pdrMap.lookup (.new d.seid id)

/-- Collect the FAR and URR ids of the PDR rows; URR id 0 means none. -/
def readPdrs (env : Env) (d : Deletion) (m : Maps) : Deletion :=
  { d with
    farIds := env.idOrder.perm ((d.listedPdrs m).map (·.farId)).dedup
    urrIds := env.idOrder.perm (((d.listedPdrs m).map (·.urrId)).filter (· ≠ 0)).dedup }

def removePdrs (d : Deletion) (m : Maps) : Maps :=
  { m with pdrMap := m.pdrMap.eraseAll (d.pdrIds.map (PdrKey.new d.seid)) }

def removeFars (d : Deletion) (m : Maps) : Maps :=
  { m with farMap := m.farMap.eraseAll (d.farIds.map (FarKey.new d.seid)) }

def removeUrrs (d : Deletion) (m : Maps) : Maps :=
  { m with urrMap := m.urrMap.eraseAll (d.urrIds.map (UrrKey.new d.seid)) }

def removeSession (d : Deletion) (m : Maps) : Maps :=
  { m with sessionMap := m.sessionMap.erase d.key }

/-- What the reads of a deletion find when nothing runs beside it. -/
def collect (env : Env) (d : Deletion) (m : Maps) : Deletion := (d.readSession m).readPdrs env m

/-- The removals, in order. -/
def remove (d : Deletion) (m : Maps) : Maps :=
  d.removeSession (d.removeUrrs (d.removeFars (d.removePdrs m)))

end Deletion

/-- The sections of a deletion behind the server lock, with nothing in between. -/
def removeRules (e : Endian) (env : Env) (seid : UInt64) (data : SessionData) (m : Maps) : Maps :=
  ((Deletion.start e seid data).collect env m).remove m

def handleSessionDeletion (e : Endian) (env : Env) (header : PfcpHeader) (src : SocketAddr)
    (w : World) : Outcome :=
  let seid := header.seid.getD 0
  match deletionLock env seid src w with
  | (.error err, w) => (.error err, w)
  | (.ok data, w) =>
    (.ok (buildSessionDeletionResponse header.seqNum seid),
      { w with
        maps := removeRules e env seid data w.maps
        tasks := if w.srv.sessionStore then w.tasks ++ [.delete seid] else w.tasks })

/-! ### Dispatch -/

/-- The handler of a decoded header. -/
def dispatch (e : Endian) (env : Env) (header : PfcpHeader) (body : Bytes) (src : SocketAddr)
    (w : World) : Outcome :=
  if header.msgType = pfcpHeartbeatReq then handleHeartbeat env header body src w
  else if header.msgType = pfcpAssociationSetupReq then
    handleSessionAssociation header body src w
  else if header.msgType = pfcpSessionEstablishmentReq then
    handleSessionEstablishment e env header body src w
  else if header.msgType = pfcpSessionModificationReq then
    handleSessionModification e env header body src w
  else if header.msgType = pfcpSessionDeletionReq then handleSessionDeletion e env header src w
  else if header.msgType = pfcpSessionReportRsp then (.ok [], w)
  else if header.msgType % 2 = 0 then (.ok [], w)
  else (.error (.unhandledType header.msgType), w)

section Dispatch

variable {e : Endian} {env : Env} {header : PfcpHeader} {body : Bytes} {src : SocketAddr}
  {w : World}

theorem dispatch_modification (ht : header.msgType = pfcpSessionModificationReq) :
    dispatch e env header body src w = handleSessionModification e env header body src w := by
  unfold dispatch
  rw [if_neg (by rw [ht]; decide), if_neg (by rw [ht]; decide), if_neg (by rw [ht]; decide),
    if_pos ht]

theorem dispatch_deletion (ht : header.msgType = pfcpSessionDeletionReq) :
    dispatch e env header body src w = handleSessionDeletion e env header src w := by
  unfold dispatch
  rw [if_neg (by rw [ht]; decide), if_neg (by rw [ht]; decide), if_neg (by rw [ht]; decide),
    if_neg (by rw [ht]; decide), if_pos ht]

end Dispatch

def handleMessage (e : Endian) (env : Env) (data : Bytes) (src : SocketAddr) (w : World) :
    Outcome :=
  match PfcpHeader.decode data with
  | .error err => (.error (.header err), w)
  | .ok (header, body) => dispatch e env header body src w

end UpfEdge.Server
