import UpfEdge.Directory
import UpfEdge.Endpoints
import UpfEdge.Pfcp.Roundtrip
import UpfEdge.Understood

/-!
# What a UE gets from a session of the simulator

The simulator asks for three kinds of session: that of `send session-establish`, which forwards TCP
and drops the rest of the uplink, that of the interactive mode, and that of the scenario
`basic_lifecycle`, whose filters drop nothing.  `simulator_session` follows such a request from its
bytes on the wire to the frames: once an associated SMF has sent it, the frames of its UE are
treated as that kind of session says, whatever happens to other UEs, until an order names the UE.
-/

namespace UpfEdge

open Lib Pfcp Server Xdp

namespace SmfSim

/-! ### The three requests -/

/-- The Session Establishment Request of the `basic_lifecycle` scenario. -/
def scenarioEstablishment (seq : UInt32) (cpSeid : UInt64) (smfAddr ueIp gnbAddr : Ipv4Addr)
    (gnbTeid : UInt32) : Bytes :=
  let msg := (PfcpHeader.newSessionMsg pfcpSessionEstablishmentReq 0 seq).encode
  let msg := addNodeIdV4 msg smfAddr
  let msg := addFseid msg cpSeid smfAddr
  let msg := addCreatePdr msg
    { pdrId := 1, precedence := 100, sourceInterface := interfaceAccess, fteidChoose := true
      ueIp := some ueIp, farId := 1, urrId := none, outerHeaderRemoval := true
      sdfFilter := some
        { proto := 6, srcIp := ueIp, dstIp := gnbAddr, srcPort := 1234, dstPort := 5678 } }
  let msg := addCreatePdr msg
    { pdrId := 2, precedence := 100, sourceInterface := interfaceCore, fteidChoose := false
      ueIp := some ueIp, farId := 2, urrId := none, outerHeaderRemoval := false
      sdfFilter := some
        { proto := 6, srcIp := ueIp, dstIp := gnbAddr, srcPort := 1234, dstPort := 5678 } }
  let msg := addCreateFar msg
    { farId := 1, applyAction := actionForw, destInterface := interfaceCore
      outerHeaderCreation := none }
  let msg := addCreateFar msg
    { farId := 2, applyAction := actionForw, destInterface := interfaceAccess
      outerHeaderCreation := some { teid := gnbTeid, peerAddr := gnbAddr, port := 2152 } }
  finish msg

/-- The kinds of session, by the command that asks for them. -/
inductive Kind where
  | sendSessionEstablish
  | addSession
  | basicLifecycle
  deriving DecidableEq, Repr

/-- What a request is made from. -/
structure Wish where
  kind : Kind
  seq : UInt32
  cpSeid : UInt64
  smfAddr : Ipv4Addr
  ueIp : Ipv4Addr
  gnbAddr : Ipv4Addr
  gnbTeid : UInt32

namespace Wish

/-- The request; `send session-establish` always uses sequence number 2. -/
def message (x : Wish) : Bytes :=
  match x.kind with
  | .sendSessionEstablish => sessionEstablishment x.cpSeid x.smfAddr x.ueIp x.gnbAddr x.gnbTeid
  | .addSession =>
    buildSessionEstablishmentRequest x.seq x.smfAddr x.cpSeid x.ueIp x.gnbAddr x.gnbTeid
  | .basicLifecycle =>
    scenarioEstablishment x.seq x.cpSeid x.smfAddr x.ueIp x.gnbAddr x.gnbTeid

/-- The PDRs of `send session-establish`: for TCP from the UE, for the rest, and for the UE. -/
def tcpPdr (x : Wish) : PdrParams :=
  { pdrId := 1, precedence := 100, sourceInterface := interfaceAccess, fteidChoose := false
    ueIp := some x.ueIp, farId := 1, urrId := some 1, outerHeaderRemoval := false
    sdfFilter := some
      { proto := 6, srcIp := .unspecified, dstIp := .unspecified, srcPort := 0, dstPort := 0 } }

def restPdr (x : Wish) : PdrParams :=
  { pdrId := 2, precedence := 200, sourceInterface := interfaceAccess, fteidChoose := false
    ueIp := some x.ueIp, farId := 3, urrId := none, outerHeaderRemoval := false
    sdfFilter := none }

def downlinkPdr (x : Wish) : PdrParams :=
  { pdrId := 3, precedence := 100, sourceInterface := interfaceCore, fteidChoose := false
    ueIp := some x.ueIp, farId := 2, urrId := some 1, outerHeaderRemoval := false
    sdfFilter := none }

/-- The PDRs of a request. -/
def pdrs (x : Wish) : List PdrParams :=
  match x.kind with
  | .sendSessionEstablish => [x.tcpPdr, x.restPdr, x.downlinkPdr]
  | .addSession =>
    [{ pdrId := 1, precedence := 100, sourceInterface := interfaceAccess, fteidChoose := true
       ueIp := some x.ueIp, farId := 1, urrId := none, outerHeaderRemoval := true
       sdfFilter := none },
      { pdrId := 2, precedence := 100, sourceInterface := interfaceCore, fteidChoose := false
        ueIp := some x.ueIp, farId := 2, urrId := none, outerHeaderRemoval := false
        sdfFilter := none }]
  | .basicLifecycle =>
    let filter : SdfFilter :=
      { proto := 6, srcIp := x.ueIp, dstIp := x.gnbAddr, srcPort := 1234, dstPort := 5678 }
    [{ pdrId := 1, precedence := 100, sourceInterface := interfaceAccess, fteidChoose := true
       ueIp := some x.ueIp, farId := 1, urrId := none, outerHeaderRemoval := true
       sdfFilter := some filter },
      { pdrId := 2, precedence := 100, sourceInterface := interfaceCore, fteidChoose := false
        ueIp := some x.ueIp, farId := 2, urrId := none, outerHeaderRemoval := false
        sdfFilter := some filter }]

/-- The FARs of the requests: for the uplink, for the downlink, and for what is dropped. -/
def toCore : FarParams :=
  { farId := 1, applyAction := actionForw, destInterface := interfaceCore
    outerHeaderCreation := none }

def toGnb (x : Wish) : FarParams :=
  { farId := 2, applyAction := actionForw, destInterface := interfaceAccess
    outerHeaderCreation := some { teid := x.gnbTeid, peerAddr := x.gnbAddr, port := 2152 } }

def toNowhere : FarParams :=
  { farId := 3, applyAction := actionDrop, destInterface := interfaceCore
    outerHeaderCreation := none }

def fars (x : Wish) : List FarParams :=
  match x.kind with
  | .sendSessionEstablish => [toCore, x.toGnb, toNowhere]
  | .addSession | .basicLifecycle => [toCore, x.toGnb]

/-- Its URRs. -/
def urrs (x : Wish) : List UrrParams :=
  match x.kind with
  | .sendSessionEstablish =>
    [{ urrId := 1, measurementMethod := measurementMethodVolum
       reportingTriggers := reportingTriggerVolth ||| reportingTriggerPerio
       volumeThresholdTotal := some 10000, measurementPeriod := some 30 }]
  | .addSession | .basicLifecycle => []

def calls (x : Wish) : List RequestCall :=
  .nodeId x.smfAddr :: .fseid x.cpSeid x.smfAddr ::
    (x.pdrs.map .createPdr ++ x.fars.map .createFar ++ x.urrs.map .createUrr)

def seqNum (x : Wish) : UInt32 :=
  match x.kind with
  | .sendSessionEstablish => 2
  | .addSession | .basicLifecycle => x.seq

theorem message_eq (x : Wish) : x.message =
    finish ((PfcpHeader.newSessionMsg pfcpSessionEstablishmentReq 0 x.seqNum).encode ++
      (x.calls.map RequestCall.ie).flatMap ieBytes) := by
  rw [← RequestCall.foldl_apply]
  obtain ⟨kind, seq, cpSeid, smfAddr, ueIp, gnbAddr, gnbTeid⟩ := x
  cases kind <;> rfl

/-- What the UPF reads. -/
def req (x : Wish) : SessionEstablishmentReq where
  nodeId := some x.smfAddr
  cpSeid := x.cpSeid
  smfAddr := x.smfAddr
  createPdrs := x.pdrs.map PdrParams.parsed
  createFars := x.fars.map FarParams.parsed
  createUrrs := x.urrs.map UrrParams.parsed

theorem calls_inRange (x : Wish) : ∀ c ∈ x.calls, c.InRange := by
  obtain ⟨kind, seq, cpSeid, smfAddr, ueIp, gnbAddr, gnbTeid⟩ := x
  have h0 : interfaceAccess < 16 := by decide
  have h1 : interfaceCore < 16 := by decide
  cases kind <;>
    simp [calls, pdrs, tcpPdr, restPdr, downlinkPdr, fars, urrs, toCore, toGnb, toNowhere,
      RequestCall.InRange, h0, h1]

theorem decode_calls (x : Wish) : SessionEstablishmentReq.decode
    ((x.calls.map RequestCall.ie).flatMap ieBytes) = .ok x.req := by
  have hin := x.calls_inRange
  obtain ⟨kind, seq, cpSeid, smfAddr, ueIp, gnbAddr, gnbTeid⟩ := x
  have hnode : (Wish.calls ⟨kind, seq, cpSeid, smfAddr, ueIp, gnbAddr, gnbTeid⟩).filterMap
      RequestCall.nodeId? = [smfAddr] := by cases kind <;> rfl
  have hfseid : (Wish.calls ⟨kind, seq, cpSeid, smfAddr, ueIp, gnbAddr, gnbTeid⟩).filterMap
      RequestCall.fseid? = [(cpSeid, smfAddr)] := by cases kind <;> rfl
  rw [decode_establishment hin hnode hfseid]
  cases kind <;> rfl

/-- An IE of a request is short. -/
theorem length_ie (c : RequestCall) : c.ie.2.length < 433 := by
  have hfar : ∀ (t : UInt16) (f : FarParams), (farBytes t f).length < 433 := by
    intro t f
    have hshort : ∀ ie ∈ farIes t f, ie.2.length < 29 := farIes_short f
    have hlen := length_flatMap_ieBytes hshort
    have hcount : (farIes t f).length = 3 := rfl
    rw [farBytes_eq]
    omega
  have hurr : ∀ u : UrrParams, (urrBytes u).length < 433 := by
    intro u
    have hlen := length_flatMap_ieBytes (urrIes_short u)
    have h1 := length_optIe_le pfcpIeVolumeThreshold
      (u.volumeThresholdTotal.map fun total => volumeThresholdTovol :: u64ToBe total)
    have h2 := length_optIe_le pfcpIeMeasurementPeriod (u.measurementPeriod.map u32ToBe)
    have hcount : (urrIes u).length ≤ 5 := by
      simp only [urrIes, List.length_append, List.length_cons, List.length_nil]
      omega
    rw [urrBytes_eq]
    omega
  cases c with
  | nodeId addr => simp [RequestCall.ie, Ipv4Addr.octets]
  | fseid seid addr => simp [RequestCall.ie, u64ToBe, length_bytesBe, Ipv4Addr.octets]
  | createPdr p =>
    have hlen := length_flatMap_ieBytes (pdrIes_short p)
    have h1 := length_optIe_le pfcpIeUrrId (p.urrId.map u32ToBe)
    have h2 := length_optIe_le pfcpIeOuterHeaderRemoval
      (if p.outerHeaderRemoval then some [0x00] else none)
    have hcount : (pdrIes p).length ≤ 6 := by
      simp only [pdrIes, List.length_append, List.length_cons, List.length_nil]
      omega
    show ((pdrIes p).flatMap ieBytes).length < 433
    omega
  | createFar f | updateFar f => exact hfar _ f
  | createUrr u | updateUrr u => exact hurr u

/-- The UPF's receive buffer holds the request. -/
theorem received_message (x : Wish) : received x.message = x.message := by
  refine List.take_of_length_le ?_
  have hies : ∀ ie ∈ x.calls.map RequestCall.ie, ie.2.length < 433 := by
    intro ie hie
    obtain ⟨c, -, rfl⟩ := List.mem_map.mp hie
    exact length_ie c
  have hcount : x.calls.length ≤ 9 := by
    obtain ⟨kind, seq, cpSeid, smfAddr, ueIp, gnbAddr, gnbTeid⟩ := x
    cases kind <;> simp [calls, pdrs, fars, urrs]
  have hlen := length_flatMap_ieBytes hies
  have hd := decode_newSessionMsg pfcpSessionEstablishmentReq 0 x.seqNum
    ((x.calls.map RequestCall.ie).flatMap ieBytes)
  rw [← message_eq] at hd
  have hbody := PfcpHeader.length_le_body hd
  rw [List.length_map] at hlen
  omega

/-- What the UPF makes of the request from an associated SMF. -/
theorem establishes_message (x : Wish) {env : Env} {w : World} {ip : Ipv4Addr} {port : UInt16}
    {assoc : Sigma fun _ : Ipv4Addr => SmfAssociation}
    (h : findAssociation env w.srv (.v4 ip port) = some assoc) :
    establishes env (received x.message) (.v4 ip port) w = some (x.req, assoc.2) := by
  have hof : establishmentOf x.message = some x.req := by
    have hd := decode_newSessionMsg pfcpSessionEstablishmentReq 0 x.seqNum
      ((x.calls.map RequestCall.ie).flatMap ieBytes)
    rw [← message_eq] at hd
    simp only [establishmentOf, hd, decode_calls]
    rfl
  simp only [received_message, establishes, hof, h, Option.map_some]

/-- The uplink packets that the kind of session lets pass. -/
def Passes (x : Wish) (t : FiveTuple) : Prop := x.kind = .sendSessionEstablish → t.proto = 6

instance (x : Wish) (t : FiveTuple) : Decidable (x.Passes t) := inferInstanceAs (Decidable (_ → _))

/-- What the kind of session does with a frame. -/
def treats (e : Endian) (x : Wish) (gnb : Ipv4Addr × UInt32) : Frame → Verdict
  | .n3 env f =>
    match parseUplink e f with
    | some p =>
      if ¬ x.Passes p.tuple then .drop
      else if canStrip env f p.outerTotal then .redirect none
      else .pass
    | none => .pass
  | .n6 env f =>
    if canGrow env f then .redirect (some (gnb.1.octets, u32ToBe gnb.2)) else .pass

end Wish

/-! ### The services -/

section Services

variable {s : Service} {iface : UInt8} {t : FiveTuple}

/-- A side without a FAR that drops lets everything pass. -/
theorem drops_eq_false (h : ∀ rule ∈ s.rules, rule.1.sourceInterface = iface →
    ∀ far ∈ rule.2, isDrop far = false) : s.drops iface t = false := by
  rw [Service.drops, Service.choice]
  cases hfound : least (Service.applies iface t) (·.1.precedence) 0xFFFFFFFF s.rules with
  | none => rfl
  | some rule =>
    obtain ⟨x, hmem, happ⟩ := mem_of_least hfound
    unfold Service.applies at happ
    split_ifs at happ with hside
    obtain ⟨far, hfar, rfl⟩ := Option.map_eq_some_iff.mp happ
    exact h x hmem hside.1 far hfar

variable (e : Endian) (n3Addr : Ipv4Addr) (teid : UInt32) (gnbInfo : OuterHeaderCreation)

/-- The service a request asks for. -/
def Wish.service (x : Wish) : Service :=
  .requested e n3Addr x.ueIp teid gnbInfo x.req

/-- The rules of the three kinds. -/
theorem rules_service (x : Wish) : (x.service e n3Addr teid gnbInfo).rules =
    x.pdrs.map fun pdr => (pdrValue e x.ueIp pdr.parsed,
      (x.fars.find? (·.farId = pdr.farId)).map fun far => farValue e n3Addr far.parsed) := by
  obtain ⟨kind, seq, cpSeid, smfAddr, ueIp, gnbAddr, gnbTeid⟩ := x
  cases kind <;> rfl

theorem isDrop_of_forw {far : FarParams} (h : far.applyAction = actionForw) :
    isDrop (farValue e n3Addr far.parsed) = false := by
  have hact : ¬ actionForw &&& actionDrop ≠ 0 := by decide
  simpa only [isDrop, farValue, FarParams.parsed, h] using decide_eq_false hact

/-- The kinds of session that drop no uplink packet have no FAR that drops. -/
theorem isDrop_fars (x : Wish) (hkind : x.kind ≠ .sendSessionEstablish) :
    ∀ far ∈ x.fars, isDrop (farValue e n3Addr far.parsed) = false := by
  obtain ⟨kind, seq, cpSeid, smfAddr, ueIp, gnbAddr, gnbTeid⟩ := x
  intro far hmem
  refine isDrop_of_forw e n3Addr ?_
  cases kind with
  | sendSessionEstablish => exact absurd rfl hkind
  | addSession | basicLifecycle =>
    rcases List.mem_cons.mp hmem with rfl | hmem
    · rfl
    · rw [List.mem_singleton.mp hmem]
      rfl

theorem isDrop_toNowhere : isDrop (farValue e n3Addr Wish.toNowhere.parsed) = true := by
  show decide (actionDrop &&& actionDrop ≠ 0) = true
  decide

theorem toBe32_unspecified : e.toBe32 Ipv4Addr.unspecified.toU32 = 0 := by
  cases e <;> decide

theorem applies_tcpPdr (x : Wish) (far : FarValue) :
    Service.applies ifaceAccess t (pdrValue e x.ueIp x.tcpPdr.parsed, some far) =
      if t.proto = 6 then some (pdrValue e x.ueIp x.tcpPdr.parsed, far) else none := by
  have hside : interfaceAccess = ifaceAccess := rfl
  simp only [Service.applies, sdfMatches, pdrValue, PdrParams.parsed, Wish.tcpPdr, Option.map_some,
    Option.getD_some, toBe32_unspecified, hside]
  by_cases htcp : t.proto = 6
  · simp [htcp]
  · simp [htcp, Ne.symm htcp]

theorem applies_restPdr (x : Wish) (far : FarValue) :
    Service.applies ifaceAccess t (pdrValue e x.ueIp x.restPdr.parsed, some far) =
      some (pdrValue e x.ueIp x.restPdr.parsed, far) := by
  have hside : interfaceAccess = ifaceAccess := rfl
  simp [Service.applies, sdfMatches, pdrValue, PdrParams.parsed, Wish.restPdr, hside]

theorem applies_downlinkPdr (x : Wish) (far : Option FarValue) :
    Service.applies ifaceAccess t (pdrValue e x.ueIp x.downlinkPdr.parsed, far) = none := by
  have hside : interfaceCore ≠ ifaceAccess := by decide
  simp [Service.applies, pdrValue, PdrParams.parsed, Wish.downlinkPdr, hside]

/-- Of the rules of `send session-establish` for uplink packets, the one for TCP comes first, and
the other one drops. -/
theorem drops_sendSessionEstablish {x : Wish} (hkind : x.kind = .sendSessionEstablish) :
    (x.service e n3Addr teid gnbInfo).drops ifaceAccess t = !decide (t.proto = 6) := by
  have hrules : (x.service e n3Addr teid gnbInfo).rules =
      [(pdrValue e x.ueIp x.tcpPdr.parsed, some (farValue e n3Addr Wish.toCore.parsed)),
        (pdrValue e x.ueIp x.restPdr.parsed, some (farValue e n3Addr Wish.toNowhere.parsed)),
        (pdrValue e x.ueIp x.downlinkPdr.parsed, some (farValue e n3Addr x.toGnb.parsed))] := by
    rw [rules_service]
    simp only [Wish.pdrs, Wish.fars, hkind]
    rfl
  have hchoice : (x.service e n3Addr teid gnbInfo).choice ifaceAccess t =
      ((x.service e n3Addr teid gnbInfo).rules.foldl
        (leastStep (Service.applies ifaceAccess t) (·.1.precedence)) (none, 0xFFFFFFFF)).1 :=
    (congrArg Prod.fst (foldl_leastStep ..)).symm
  have htcp : (pdrValue e x.ueIp x.tcpPdr.parsed).precedence = 100 := rfl
  have hrest : (pdrValue e x.ueIp x.restPdr.parsed).precedence = 200 := rfl
  rw [Service.drops, hchoice, hrules]
  simp only [List.foldl_cons, List.foldl_nil, leastStep, applies_tcpPdr, applies_restPdr,
    applies_downlinkPdr]
  have hforw := isDrop_of_forw e n3Addr (show Wish.toCore.applyAction = actionForw from rfl)
  by_cases h : t.proto = 6
  · simp [h, htcp, hrest, hforw]
  · simp [h, hrest, isDrop_toNowhere]

theorem drops_access (x : Wish) :
    (x.service e n3Addr teid gnbInfo).drops ifaceAccess t = !decide (x.Passes t) := by
  by_cases hkind : x.kind = .sendSessionEstablish
  · have hpasses : decide (x.Passes t) = decide (t.proto = 6) := by simp [Wish.Passes, hkind]
    rw [hpasses, drops_sendSessionEstablish e n3Addr teid gnbInfo hkind]
  · have hpasses : x.Passes t := fun h => absurd h hkind
    rw [decide_eq_true hpasses]
    refine drops_eq_false fun rule hmem _ far hfar => ?_
    rw [rules_service] at hmem
    obtain ⟨pdr, -, rfl⟩ := List.mem_map.mp hmem
    obtain ⟨far', hfound, rfl⟩ := Option.map_eq_some_iff.mp hfar
    exact isDrop_fars e n3Addr x hkind far' (List.mem_of_find?_eq_some hfound)

/-- The rules for downlink packets send to the gNB. -/
theorem far_of_core (x : Wish) {pdr : PdrParams} (h : pdr ∈ x.pdrs)
    (hside : pdr.sourceInterface = interfaceCore) :
    x.fars.find? (·.farId = pdr.farId) = some x.toGnb := by
  have hne : interfaceAccess ≠ interfaceCore := by decide
  obtain ⟨kind, seq, cpSeid, smfAddr, ueIp, gnbAddr, gnbTeid⟩ := x
  cases kind with
  | sendSessionEstablish =>
    rcases List.mem_cons.mp h with rfl | h
    · exact absurd hside hne
    rcases List.mem_cons.mp h with rfl | h
    · exact absurd hside hne
    rw [List.mem_singleton.mp h]
    rfl
  | addSession | basicLifecycle =>
    rcases List.mem_cons.mp h with rfl | h
    · exact absurd hside hne
    rw [List.mem_singleton.mp h]
    rfl

/-- No kind of session drops downlink packets. -/
theorem drops_core (x : Wish) : (x.service e n3Addr teid gnbInfo).drops ifaceCore t = false := by
  refine drops_eq_false fun rule hmem hside far hfar => ?_
  rw [rules_service] at hmem
  obtain ⟨pdr, hpdr, rfl⟩ := List.mem_map.mp hmem
  rw [far_of_core x hpdr hside] at hfar
  obtain rfl := Option.some.inj hfar
  exact isDrop_of_forw e n3Addr rfl

theorem coreFar_service (x : Wish) : (x.service e n3Addr teid gnbInfo).coreFar =
    some (farValue e n3Addr x.toGnb.parsed) := by
  have hsome : ∀ pdrs : List PdrParams, (∀ pdr ∈ pdrs, pdr ∈ x.pdrs) →
      (∃ pdr ∈ pdrs, pdr.sourceInterface = interfaceCore) →
      (pdrs.map fun pdr => (pdrValue e x.ueIp pdr.parsed,
        (x.fars.find? (·.farId = pdr.farId)).map fun far => farValue e n3Addr far.parsed)).findSome?
          (fun rule => if rule.1.sourceInterface = ifaceCore then rule.2 else none) =
        some (farValue e n3Addr x.toGnb.parsed) := by
    intro pdrs hsub hcore
    induction pdrs with
    | nil => simp at hcore
    | cons pdr pdrs ih =>
      rw [List.map_cons, List.findSome?_cons]
      by_cases hside : pdr.sourceInterface = interfaceCore
      · have hside' : (pdrValue e x.ueIp pdr.parsed).sourceInterface = ifaceCore := hside
        rw [if_pos hside', far_of_core x (hsub pdr (List.mem_cons_self ..)) hside]
        rfl
      · have hside' : ¬ (pdrValue e x.ueIp pdr.parsed).sourceInterface = ifaceCore := hside
        rw [if_neg hside']
        refine ih (fun p hp => hsub p (List.mem_cons_of_mem _ hp)) ?_
        obtain ⟨p, hp, hpside⟩ := hcore
        rcases List.mem_cons.mp hp with rfl | hp
        · exact absurd hpside hside
        · exact ⟨p, hp, hpside⟩
  rw [Service.coreFar, rules_service]
  refine hsome x.pdrs (fun _ h => h) ?_
  obtain ⟨kind, seq, cpSeid, smfAddr, ueIp, gnbAddr, gnbTeid⟩ := x
  cases kind <;> simp [Wish.pdrs, Wish.downlinkPdr]

theorem tunnel_service (x : Wish) : (x.service e n3Addr teid gnbInfo).tunnel =
    some (e.toBe32 x.gnbAddr.toU32, e.toBe32 x.gnbTeid) := by
  have hforw : isForw (farValue e n3Addr x.toGnb.parsed) = true := by
    show decide (actionForw &&& actionForw ≠ 0) = true
    decide
  have hdrop : isDrop (farValue e n3Addr x.toGnb.parsed) = false := isDrop_of_forw e n3Addr rfl
  simp only [Service.tunnel, coreFar_service, hdrop, hforw]
  rfl

end Services

/-! ### From the wire to the frames -/

section Session

variable {a : Audit} {env : Env} {ip : Ipv4Addr} {port : UInt16}

/-- What the service does with the frames of its UE. -/
theorem render_service (e : Endian) (n3Addr : Ipv4Addr) (teid : UInt32)
    (gnbInfo : OuterHeaderCreation) (x : Wish) {fr : Frame} {ue : Ipv4Addr}
    (hue : fr.ue e = some ue) :
    fr.render e ((x.service e n3Addr teid gnbInfo).ruling e fr) =
      x.treats e (x.gnbAddr, x.gnbTeid) fr := by
  cases fr with
  | n3 env f =>
    obtain ⟨p, hp, -⟩ := Option.map_eq_some_iff.mp hue
    simp only [Service.ruling, Wish.treats, hp, drops_access, Bool.not_eq_true',
      decide_eq_false_iff_not]
    by_cases hpass : x.Passes p.tuple
    · simp [hpass, Frame.render, Frame.sendable, hp]
    · simp [hpass, Frame.render]
  | n6 env f =>
    obtain ⟨t, ht, -⟩ := Option.map_eq_some_iff.mp hue
    have hstore := Supply.store_ohc e { teid := x.gnbTeid, peerAddr := x.gnbAddr, port := 2152 }
    simp only at hstore
    simp only [Service.ruling, Wish.treats, ht, drops_core, tunnel_service, Bool.false_eq_true,
      if_false, Option.map_some, Frame.render, Frame.sendable, hstore]

/-- The order that the request of an associated SMF is. -/
theorem order_message (host : Host) (now : Instant) (x : Wish)
    (hassoc : (findAssociation env a.srv (.v4 ip port)).isSome) :
    ∃ gnbInfo, a.order host (.datagram env now x.message (.v4 ip port)) =
      some (.provide x.ueIp (x.service host.endian a.srv.n3Addr a.srv.nextTeid gnbInfo)) := by
  obtain ⟨assoc, hfind⟩ := Option.isSome_iff_exists.mp hassoc
  have hest := x.establishes_message (w := a.world) hfind
  have hue : x.req.createPdrs.findSome? (·.ueIp) = some x.ueIp := by
    obtain ⟨kind, seq, cpSeid, smfAddr, ueIp, gnbAddr, gnbTeid⟩ := x
    cases kind <;> rfl
  have hgnb : x.req.createFars.findSome? (·.outerHeaderCreation) =
      some { teid := x.gnbTeid, peerAddr := x.gnbAddr, port := 2152 } := by
    obtain ⟨kind, seq, cpSeid, smfAddr, ueIp, gnbAddr, gnbTeid⟩ := x
    cases kind <;> rfl
  refine ⟨{ teid := x.gnbTeid, peerAddr := x.gnbAddr, port := 2152 }, ?_⟩
  simp only [Audit.order, hest, hue, hgnb, Option.bind_some, Option.map_some]
  rfl

/-- **What the UE of a session gets.**  An associated SMF sends one of the three requests, in a run
whose SEIDs fit, whose addresses are not shared and whose establishments complete.  Then, until an
order names the UE, its uplink frames leave on N6 if the session lets them pass and its downlink
frames leave for the gNB and the TEID of the request, as far as there is room to send them. -/
theorem simulator_session (host : Host) (b : Boot) (pre post : List Event) (x : Wish) (env : Env)
    (now : Instant) (ip : Ipv4Addr) (port : UInt16)
    (hm : Meets (Audit.step host) (Audit.Fits host) (Audit.init b)
      (pre ++ .datagram env now x.message (.v4 ip port) :: post))
    (hassoc : (findAssociation env (Audit.after host b pre).srv (.v4 ip port)).isSome)
    (hothers : ∀ o ∈ orders (Audit.step host) (Audit.order host) (Audit.after host b
      (pre ++ [.datagram env now x.message (.v4 ip port)])) post, o.ueIp ≠ x.ueIp)
    (fr : Frame) (hue : fr.ue host.endian = some x.ueIp) :
    fr.verdict host.endian (Audit.after host b
        (pre ++ .datagram env now x.message (.v4 ip port) :: post)).maps =
      x.treats host.endian (x.gnbAddr, x.gnbTeid) fr := by
  obtain ⟨hpre, hev, hpost⟩ := meets_append.mp hm
  have htidy := Audit.after_tidy host b hpre
  obtain ⟨gnbInfo, horder⟩ := order_message host now x hassoc
  have hafter : Audit.after host b (pre ++ [.datagram env now x.message (.v4 ip port)]) =
      (Audit.after host b pre).step host (.datagram env now x.message (.v4 ip port)) :=
    run_concat ..
  rw [hafter] at hothers
  have hstep := congrFun (Audit.step_directory htidy hev) x.ueIp
  rw [horder, Option.toList_some, run_cons, run_nil, Order.apply, Order.service,
    show (Order.provide x.ueIp _).ueIp = x.ueIp from rfl, Function.update_self] at hstep
  have hkept := Audit.directory_undisturbed host (htidy.step hev) hpost hothers
  rw [Frame.verdict_directory, Frame.decide, hue, Option.bind_some, Audit.after, run_append,
    run_cons]
  rw [hstep] at hkept
  rw [show (run (Audit.step host) _ post).maps.directory host.endian x.ueIp = _ from hkept]
  exact render_service _ _ _ _ x hue

end Session

/-- The session of `send session-establish`, for the second UE. -/
def secondSession : Wish where
  kind := .sendSessionEstablish
  seq := 2
  cpSeid := 7
  smfAddr := smfB
  ueIp := ue2
  gnbAddr := gnb
  gnbTeid := 0x1234

/-- A datagram for the second UE goes to its gNB while the first session comes and goes. -/
theorem simulator_session_secondSession :
    (Frame.n6 machine (downlinkFrame ue2)).verdict .little (Audit.after host boot
        ([setup smfA 1, setup smfB 1, establish smfA 1 ue1] ++
          .datagram env 0 secondSession.message (.v4 smfB 8805) ::
            [sends smfA (tunnelModification 1 gnb), sends smfA (sessionDeletion 1)])).maps =
      .redirect (some ([10, 0, 0, 20], [0, 0, 0x12, 0x34])) := by
  have h := simulator_session host boot [setup smfA 1, setup smfB 1, establish smfA 1 ue1]
    [sends smfA (tunnelModification 1 gnb), sends smfA (sessionDeletion 1)] secondSession env 0
    smfB 8805 (by decide +kernel) (by decide +kernel) (by decide +kernel)
    (.n6 machine (downlinkFrame ue2)) (by decide +kernel)
  rw [show (Host.endian host) = .little from rfl] at h
  rw [h]
  decide +kernel

end SmfSim

end UpfEdge
