import UpfEdge.Pfcp.Messages

/-!
# The state of the UPF

The control plane's server record (`pfcp_server.rs`, `association.rs`), the eBPF maps both planes
share with the capacities `upf-edge-ebpf/src/main.rs` declares for them, and `World`, the two
together with what the handlers hand to other tasks: the persistence tasks they spawn and the
active-session gauge.

A hash table is walked in an order the program does not choose.  Whatever a handler can observe of
that order, and of the clock, is in its `Env`.
-/

namespace UpfEdge.Server

open Lib Pfcp

/-- An `Instant`, in nanoseconds since some fixed moment. -/
abbrev Instant : Type := ℕ

structure SessionData where
  ueIp : Ipv4Addr
  teid : UInt32
  gnbIp : Ipv4Addr
  cpSeid : UInt64
  deriving DecidableEq, Repr

structure UrrConfig where
  urrId : UInt32
  seid : UInt64
  cpSeid : UInt64
  measurementMethod : UInt8
  reportingTriggers : UInt8
  volumeThresholdTotal : Option UInt64
  measurementPeriod : Option UInt32
  lastReport : Instant
  thresholdReported : Bool
  urSeqn : UInt32
  deriving DecidableEq, Repr

structure SmfAssociation where
  nodeId : Ipv4Addr
  peerAddr : SocketAddr
  recoveryTs : UInt32
  sessions : Table UInt64 SessionData
  deriving DecidableEq

def SmfAssociation.new (nodeId : Ipv4Addr) (peerAddr : SocketAddr) (recoveryTs : UInt32) :
    SmfAssociation :=
  { nodeId, peerAddr, recoveryTs, sessions := ∅ }

/-- The server record.  `sessionStore` says whether a Redis store is configured. -/
structure PfcpServer where
  n3Addr : Ipv4Addr
  recoveryTs : UInt32
  associations : Table Ipv4Addr SmfAssociation
  nextSeid : UInt64
  nextTeid : UInt32
  sessions : Table UInt64 SessionData
  urrConfigs : Table (UInt64 × UInt32) UrrConfig
  peerAddr : Option SocketAddr
  lastActivity : Instant
  sessionStore : Bool
  nextReportSeq : UInt32

namespace PfcpServer

/-- `PfcpServer::new`, at `unixNow` seconds and the instant `now`. -/
def new (n3Addr : Ipv4Addr) (unixNow : UInt32) (now : Instant) : PfcpServer where
  n3Addr := n3Addr
  recoveryTs := unixNow + 2208980800
  associations := ∅
  nextSeid := 1
  nextTeid := 1000
  sessions := ∅
  urrConfigs := ∅
  peerAddr := none
  lastActivity := now
  sessionStore := false
  nextReportSeq := 1000

def allocSeid (srv : PfcpServer) : UInt64 × PfcpServer :=
  (srv.nextSeid, { srv with nextSeid := srv.nextSeid + 1 })

def allocTeid (srv : PfcpServer) : UInt32 × PfcpServer :=
  (srv.nextTeid, { srv with nextTeid := srv.nextTeid + 1 })

def allocReportSeq (srv : PfcpServer) : UInt32 × PfcpServer :=
  (srv.nextReportSeq, { srv with nextReportSeq := srv.nextReportSeq + 1 })

def touchActivity (srv : PfcpServer) (now : Instant) : PfcpServer :=
  { srv with lastActivity := now }

end PfcpServer

/-- The eBPF maps.  `ifIndex` and `gwMac` are array maps: every index below their size has a
value. -/
structure Maps where
  sessionMap : BoundedTable 1024 SessionKey SessionInfo
  pdrMap : BoundedTable 4096 PdrKey PdrValue
  farMap : BoundedTable 4096 FarKey FarValue
  statsMap : BoundedTable 1024 SessionKey (PerCpu SessionStats)
  urrMap : BoundedTable 4096 UrrKey (PerCpu UrrStats)
  ifIndex : Vector UInt32 2
  gwMac : Vector MacAddr 2

/-- The maps as the loader leaves them: the two arrays filled in, the hash maps empty. -/
def Maps.empty (ifIndex : Vector UInt32 2) (gwMac : Vector MacAddr 2) : Maps where
  sessionMap := .empty
  pdrMap := .empty
  farMap := .empty
  statsMap := .empty
  urrMap := .empty
  ifIndex := ifIndex
  gwMac := gwMac

/-- A detached persistence task. -/
inductive StoreTask where
  | save (seid : UInt64) (data : SessionData)
  | delete (seid : UInt64)
  deriving DecidableEq, Repr

/-- Everything the handlers can change. -/
structure World where
  srv : PfcpServer
  maps : Maps
  gauge : ℤ
  tasks : List StoreTask

/-- What a handler learns from outside: how the hash tables it walks are ordered, and what its
successive readings of the clock return. -/
structure Env where
  assocOrder : IterOrder (Sigma fun _ : Ipv4Addr => SmfAssociation)
  idOrder : IterOrder UInt32
  now : ℕ → Instant

/-! ### Errors -/

/-- The errors of the handlers, one constructor for each place that raises one. -/
inductive HandleError where
  | header (e : PfcpError)
  | decode (e : DecodeError)
  | establishmentNonIpv4
  | establishmentWithoutAssociation (ip : Ipv4Addr) (port : UInt16)
  | noUeIp
  | noOuterHeaderCreation
  | mapInsert
  | modificationMissingSeid
  | modificationUnknownSeid (seid : UInt64)
  | modificationNonIpv4
  | modificationOwnership (ip : Ipv4Addr) (port : UInt16) (cpSeid : UInt64) (nodeId : Ipv4Addr)
  | modificationWithoutAssociation (ip : Ipv4Addr) (port : UInt16)
  | deletionUnknownSeid (seid : UInt64)
  | deletionNonIpv4
  | deletionNotOwned (cpSeid : UInt64) (ip : Ipv4Addr) (port : UInt16)
  | deletionWithoutAssociation (ip : Ipv4Addr) (port : UInt16)
  | unhandledType (msgType : UInt8)
  deriving DecidableEq, Repr

/-- `Display` of an IPv4 socket address. -/
def sourceText (ip : Ipv4Addr) (port : UInt16) : String := ip.text ++ ":" ++ toString port

/-- The text the source gives an error.  `mapInsert` is raised by the map library. -/
def HandleError.text : HandleError → String
  | .header e => e.text
  | .decode e => e.text
  | .establishmentNonIpv4 => "non-IPv4 srouce not supported"
  | .establishmentWithoutAssociation ip port =>
      "Session Establishment without Association from " ++ sourceText ip port
  | .noUeIp => "no UE IP in PDRs"
  | .noOuterHeaderCreation => "no Outer Header Creation in FARs"
  | .mapInsert => "bpf_map_update_elem failed"
  | .modificationMissingSeid => "Session Modification Request missing SEID"
  | .modificationUnknownSeid seid => "Unknown SEID in Modification: " ++ toString seid
  | .modificationNonIpv4 => "non-IPv4 source not supported"
  | .modificationOwnership ip port cpSeid nodeId =>
      "Ownership violation: source " ++ sourceText ip port ++ " tries to modify session cp_seid=" ++
        toString cpSeid ++ " which is not owned by association " ++ nodeId.text
  | .modificationWithoutAssociation ip port =>
      "Session Modification without Association from " ++ sourceText ip port
  | .deletionUnknownSeid seid => "Unknown SEID in Deletion: " ++ toString seid
  | .deletionNonIpv4 => "non-IPv4 source not supported"
  | .deletionNotOwned cpSeid ip port =>
      "Session " ++ toString cpSeid ++ " not owned by association from " ++ sourceText ip port
  | .deletionWithoutAssociation ip port =>
      "Session Deletion without Association from " ++ sourceText ip port
  | .unhandledType t => "unhandled type: " ++ toString t

/-! ### The association of a source -/

/-- `associations.values_mut().find(|a| a.peer_addr == src)`, with the key the entry stands at. -/
def findAssociation (env : Env) (srv : PfcpServer) (src : SocketAddr) :
    Option (Sigma fun _ : Ipv4Addr => SmfAssociation) :=
  (env.assocOrder.perm srv.associations.entries).find? fun a => a.2.peerAddr = src

theorem findAssociation_some {env : Env} {srv : PfcpServer} {src : SocketAddr}
    {a : Sigma fun _ : Ipv4Addr => SmfAssociation} (h : findAssociation env srv src = some a) :
    srv.associations.lookup a.1 = some a.2 ∧ a.2.peerAddr = src := by
  obtain ⟨hm, hp⟩ := env.assocOrder.find?_some h
  exact ⟨Table.lookup_eq_some.mpr hm, by simpa using hp⟩

theorem findAssociation_isSome (env : Env) {srv : PfcpServer} {k : Ipv4Addr} {a : SmfAssociation}
    (h : srv.associations.lookup k = some a) : (findAssociation env srv a.peerAddr).isSome :=
  env.assocOrder.find?_isSome (Table.lookup_eq_some.mp h) (by simp)

end UpfEdge.Server
