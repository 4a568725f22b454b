import UpfEdge.Answers
import UpfEdge.Datagrams
import UpfEdge.Pfcp.Dict

/-!
# Mandatory IEs

Which IEs a request must have is written down twice: in the dictionary, whose check is only logged
(`decode_header` in `handle_msg.rs`), and in the decoders and handlers.  The two agree on the
Association Setup Request, and on the F-SEID, the Create PDRs and the Create FARs of a Session
Establishment Request, the last two because a UE address and an outer header are looked for in them.
They do not agree on the Node ID of an establishment, which the decoder takes as optional.

`Enforced` says that a request the dictionary finds incomplete is not accepted, and
`mandatory_enforced` that this holds but for an establishment without a Node ID that gets as far as
its first insert.
-/

namespace UpfEdge

open Lib Pfcp Server

/-! ### What a decoder has found -/

section Found

variable {α : Type} {ies : List RawIE} {t : UInt16} {parse : Bytes → Except PfcpError α}

/-- A mandatory IE that was read is there. -/
theorem mem_of_requireIe {missing : DecodeError} {x : α}
    (h : requireIe ies t missing parse = .ok x) : t ∈ ies.map (·.ieType) := by
  unfold requireIe at h
  cases hfind : findIe ies t with
  | none =>
    rw [hfind] at h
    cases h
  | some raw =>
    have htype : raw.ieType = t := by simpa using List.find?_some hfind
    rw [← htype]
    exact List.mem_map_of_mem (List.mem_of_find?_eq_some hfind)

/-- Of a repeated IE that was read there is one. -/
theorem mem_of_collectIes {xs : List α} (h : collectIes ies t parse = .ok xs) (hne : xs ≠ []) :
    t ∈ ies.map (·.ieType) := by
  unfold collectIes at h
  cases hfilter : ies.filter (·.ieType = t) with
  | nil =>
    rw [hfilter] at h
    exact absurd (Except.ok.inj h).symm hne
  | cons raw rest =>
    have hmem : raw ∈ ies.filter (·.ieType = t) := by
      rw [hfilter]
      exact List.mem_cons_self ..
    obtain ⟨hraw, htype⟩ := List.mem_filter.mp hmem
    rw [← of_decide_eq_true htype]
    exact List.mem_map_of_mem hraw

end Found

/-- A setup that decodes is complete. -/
theorem validate_of_setup {body : Bytes} {req : AssociationSetupReq}
    (h : AssociationSetupReq.decode body = .ok req) :
    (validate pfcpAssociationSetupReq body).isOk := by
  obtain ⟨nodeId, hnode, h⟩ := except_bind_ok h
  obtain ⟨recoveryTs, hts, -⟩ := except_bind_ok h
  have hmand : mandatoryTypes pfcpAssociationSetupReq = [pfcpIeNodeId, pfcpIeRecoveryTimeStamp] :=
    rfl
  rw [validate_isOk, hmand]
  intro t ht
  simp only [List.mem_cons, List.not_mem_nil, or_false] at ht
  rcases ht with rfl | rfl
  · exact mem_of_requireIe hnode
  · exact mem_of_requireIe hts

/-- An establishment that decodes to a UE address and an outer header is complete but for its
Node ID. -/
theorem validate_of_establishment {body : Bytes} {req : SessionEstablishmentReq}
    (h : SessionEstablishmentReq.decode body = .ok req)
    (hue : (req.createPdrs.findSome? (·.ueIp)).isSome)
    (hgnb : (req.createFars.findSome? (·.outerHeaderCreation)).isSome) :
    (validate pfcpSessionEstablishmentReq body).isOk ↔
      pfcpIeNodeId ∈ (iterIes body).map (·.ieType) := by
  obtain ⟨fseid, hfseid, h⟩ := except_bind_ok h
  obtain ⟨createPdrs, hpdrs, h⟩ := except_bind_ok h
  obtain ⟨createFars, hfars, h⟩ := except_bind_ok h
  obtain ⟨createUrrs, -, h⟩ := except_bind_ok h
  obtain rfl := Except.ok.inj h
  have hpdrs' : createPdrs ≠ [] := by
    rintro rfl
    cases hue
  have hfars' : createFars ≠ [] := by
    rintro rfl
    cases hgnb
  have hmand : mandatoryTypes pfcpSessionEstablishmentReq =
      [pfcpIeNodeId, pfcpIeFseid, pfcpIeCreatePdr, pfcpIeCreateFar] := rfl
  rw [validate_isOk, hmand]
  constructor
  · intro hall
    exact hall _ (List.mem_cons_self ..)
  · intro hnode t ht
    simp only [List.mem_cons, List.not_mem_nil, or_false] at ht
    rcases ht with rfl | rfl | rfl | rfl
    · exact hnode
    · exact mem_of_requireIe hfseid
    · exact mem_of_collectIes hpdrs hpdrs'
    · exact mem_of_collectIes hfars hfars'

/-! ### Requests the dictionary finds incomplete -/

/-- The types of the IEs of a datagram. -/
def ieTypes (data : Bytes) : List UInt16 :=
  match PfcpHeader.decode data with
  | .ok (_, body) => (iterIes body).map (·.ieType)
  | .error _ => []

/-- What an incomplete request must not do: change a session, an association or a map, or, as a
setup or an establishment, succeed. -/
structure NotAccepted (header : PfcpHeader) (w : World) (out : Outcome) : Prop where
  sessions : out.2.srv.sessions = w.srv.sessions
  associations : out.2.srv.associations = w.srv.associations
  maps : out.2.maps = w.maps
  refused : header.msgType = pfcpAssociationSetupReq ∨
    header.msgType = pfcpSessionEstablishmentReq → ∃ err, out.1 = .error err

/-- A datagram in which the dictionary finds a mandatory IE missing is not accepted. -/
def Enforced (host : Host) (env : Env) (now : Instant) (data : Bytes) (src : SocketAddr)
    (w : World) : Prop :=
  ∀ header body, PfcpHeader.decode (received data) = .ok (header, body) →
    ¬ (validate header.msgType body).isOk →
    NotAccepted header w (receive host env now data src w)

/-- SESSION_MAP has a row for the address or room for one. -/
def TakesRow (host : Host) (ueIp : Ipv4Addr) (m : Maps) : Prop :=
  (m.sessionMap.rows.lookup (.ofIp host.endian ueIp)).isSome ∨
    m.sessionMap.rows.keys.length < 1024

/-- An establishment that gets as far as its inserts, the first of which SESSION_MAP takes, has a
Node ID. -/
def Named (host : Host) (env : Env) (data : Bytes) (src : SocketAddr) (w : World) : Prop :=
  ∀ req assoc ueIp, establishes env (received data) src w = some (req, assoc) →
    req.createPdrs.findSome? (·.ueIp) = some ueIp →
    (req.createFars.findSome? (·.outerHeaderCreation)).isSome →
    TakesRow host ueIp w.maps → pfcpIeNodeId ∈ ieTypes (received data)

section Enforced

variable {host : Host} {env : Env} {now : Instant} {data body : Bytes} {src : SocketAddr}
  {w : World} {header : PfcpHeader}

theorem notAccepted_of_error {r : Except HandleError Bytes} {w' : World} {err : HandleError}
    (hr : r = .error err) (hs : w'.srv.sessions = w.srv.sessions)
    (ha : w'.srv.associations = w.srv.associations) (hm : w'.maps = w.maps) :
    NotAccepted header w (r, w') :=
  ⟨hs, ha, hm, fun _ => ⟨err, hr⟩⟩

/-- Without room for its row an establishment does nothing. -/
theorem install_of_full {ueIp : Ipv4Addr} {gnbInfo : OuterHeaderCreation}
    {req : SessionEstablishmentReq} {n3Addr : Ipv4Addr} {seid : UInt64} {teid : UInt32}
    (h : ¬ TakesRow host ueIp w.maps) :
    install (installSteps host.endian env n3Addr seid teid ueIp gnbInfo req) w = (false, w) := by
  have hfull : w.maps.sessionMap.insert (.ofIp host.endian ueIp)
      (sessionInfo host.endian n3Addr seid teid gnbInfo req.createPdrs) = none := dif_neg h
  rcases installSteps_sessionMap host.endian env n3Addr seid teid ueIp gnbInfo req w with
    ⟨-, heq⟩ | hins
  · exact heq
  · cases hfull.symm.trans hins

/-- An establishment whose row, if it comes to one, finds no room writes nothing: it stops before a
SEID is issued or right after. -/
theorem establishment_stops (hd : PfcpHeader.decode (received data) = .ok (header, body))
    (ht : header.msgType = pfcpSessionEstablishmentReq)
    (hstop : ∀ req assoc ueIp, SessionEstablishmentReq.decode body = .ok req →
      establishes env (received data) src w = some (req, assoc) →
      req.createPdrs.findSome? (·.ueIp) = some ueIp →
      (req.createFars.findSome? (·.outerHeaderCreation)).isSome → ¬ TakesRow host ueIp w.maps) :
    ∃ err, ∃ w' ∈ [touched now w, allocated (touched now w)],
      handleSessionEstablishment host.endian env header body src (touched now w) =
        (.error err, w') := by
  have hbefore : touched now w ∈ [touched now w, allocated (touched now w)] := by simp
  have hafter : allocated (touched now w) ∈ [touched now w, allocated (touched now w)] := by simp
  unfold handleSessionEstablishment
  cases hreq : SessionEstablishmentReq.decode body with
  | error err => exact ⟨_, _, hbefore, rfl⟩
  | ok req =>
    cases src with
    | v6 => exact ⟨_, _, hbefore, rfl⟩
    | v4 ip port =>
      have hest : establishes env (received data) (.v4 ip port) w = _ :=
        establishes_of_decode hd ht hreq ip port
      have hsame : findAssociation env (touched now w).srv (.v4 ip port) =
        findAssociation env w.srv (.v4 ip port) := rfl
      cases hfind : findAssociation env w.srv (.v4 ip port) with
      | none =>
        simp only [hsame, hfind]
        exact ⟨_, _, hbefore, rfl⟩
      | some assoc =>
        rw [hfind, Option.map_some] at hest
        cases hue : req.createPdrs.findSome? (·.ueIp) with
        | none =>
          simp only [hsame, hfind, hue]
          exact ⟨_, _, hafter, rfl⟩
        | some ueIp =>
          cases hgnb : req.createFars.findSome? (·.outerHeaderCreation) with
          | none =>
            simp only [hsame, hfind, hue, hgnb]
            exact ⟨_, _, hafter, rfl⟩
          | some gnbInfo =>
            have hroom : ¬ TakesRow host ueIp (allocated (touched now w)).maps :=
              hstop req assoc.2 ueIp hreq hest hue (by rw [hgnb]; rfl)
            simp only [hsame, hfind, hue, hgnb, install_of_full hroom]
            exact ⟨_, _, hafter, rfl⟩

theorem establishment_enforced (hd : PfcpHeader.decode (received data) = .ok (header, body))
    (ht : header.msgType = pfcpSessionEstablishmentReq) (hnamed : Named host env data src w)
    (hinc : ¬ (validate header.msgType body).isOk) :
    NotAccepted header w
      (handleSessionEstablishment host.endian env header body src (touched now w)) := by
  have hstop : ∀ req assoc ueIp, SessionEstablishmentReq.decode body = .ok req →
      establishes env (received data) src w = some (req, assoc) →
      req.createPdrs.findSome? (·.ueIp) = some ueIp →
      (req.createFars.findSome? (·.outerHeaderCreation)).isSome → ¬ TakesRow host ueIp w.maps := by
    intro req assoc ueIp hreq hest hue hgnb hroom
    have hnode := hnamed req assoc ueIp hest hue hgnb hroom
    simp only [ieTypes, hd] at hnode
    rw [ht] at hinc
    exact hinc ((validate_of_establishment hreq (by rw [hue]; rfl) hgnb).mpr hnode)
  obtain ⟨err, w', hw', heq⟩ : ∃ err, ∃ w' ∈ [touched now w, allocated (touched now w)],
      handleSessionEstablishment host.endian env header body src (touched now w) =
        (.error err, w') :=
    establishment_stops hd ht hstop
  rw [heq]
  rcases List.mem_pair.mp hw' with rfl | rfl <;> exact notAccepted_of_error rfl rfl rfl rfl

/-- The condition is enough. -/
theorem Named.enforced (h : Named host env data src w) : Enforced host env now data src w := by
  intro header body hd hinc
  have hcomplete : ∀ t, header.msgType = t → mandatoryTypes t = [] → False := by
    rintro t rfl hnil
    refine hinc (validate_isOk.mpr ?_)
    rw [hnil]
    exact fun _ ht => absurd ht List.not_mem_nil
  simp only [receive, handleMessage, hd, dispatch]
  split_ifs with h1 h2 h3 h4 h5 h6 h7
  · exact (hcomplete _ h1 rfl).elim
  · unfold handleSessionAssociation
    cases hreq : AssociationSetupReq.decode body with
    | error err => exact notAccepted_of_error rfl rfl rfl rfl
    | ok req =>
      rw [h2] at hinc
      exact absurd (validate_of_setup hreq) hinc
  · exact establishment_enforced hd h3 h hinc
  · exact (hcomplete _ h4 rfl).elim
  · exact (hcomplete _ h5 rfl).elim
  · exact ⟨rfl, rfl, rfl, fun ht => (ht.elim h2 h3).elim⟩
  · exact ⟨rfl, rfl, rfl, fun ht => (ht.elim h2 h3).elim⟩
  · exact notAccepted_of_error rfl rfl rfl rfl

/-- The first insert of an establishment, when SESSION_MAP takes it. -/
theorem lookup_install {ueIp : Ipv4Addr} {gnbInfo : OuterHeaderCreation}
    {req : SessionEstablishmentReq} {n3Addr : Ipv4Addr} {seid : UInt64} {teid : UInt32} {ok : Bool}
    {w' : World} (hroom : TakesRow host ueIp w.maps)
    (hinst : install (installSteps host.endian env n3Addr seid teid ueIp gnbInfo req) w =
      (ok, w')) :
    ∃ info, w'.maps.sessionMap.lookup (.ofIp host.endian ueIp) = some info ∧ info.seid = seid := by
  have hmap := installSteps_sessionMap host.endian env n3Addr seid teid ueIp gnbInfo req w
  rw [hinst] at hmap
  rcases hmap with ⟨hfull, -⟩ | hins
  · have htaken : w.maps.sessionMap.insert (.ofIp host.endian ueIp)
        (sessionInfo host.endian n3Addr seid teid gnbInfo req.createPdrs) = some _ := dif_pos hroom
    cases htaken.symm.trans hfull
  · exact ⟨_, (BoundedTable.lookup_of_insert hins _).trans (if_pos rfl), rfl⟩

/-- An establishment whose inserts begin leaves a row with its SEID. -/
theorem lookup_receive {req : SessionEstablishmentReq} {assoc : SmfAssociation} {ueIp : Ipv4Addr}
    (now : Instant) (hest : establishes env (received data) src w = some (req, assoc))
    (hue : req.createPdrs.findSome? (·.ueIp) = some ueIp)
    (hgnb : (req.createFars.findSome? (·.outerHeaderCreation)).isSome)
    (hroom : TakesRow host ueIp w.maps) :
    ∃ info, (receive host env now data src w).2.maps.sessionMap.lookup
      (.ofIp host.endian ueIp) = some info ∧ info.seid = w.srv.nextSeid := by
  have hroom' : TakesRow host ueIp (allocated (touched now w)).maps := hroom
  rcases establishment_outcomes host now hest with ⟨hnone | hnone, -⟩ |
    ⟨ueIp', gnbInfo, hue', -, made, w', hinst, ⟨-, err, hrec⟩ | ⟨-, rsp, hrec⟩⟩
  · cases hue.symm.trans hnone
  · rw [hnone] at hgnb
    cases hgnb
  · obtain rfl := Option.some.inj (hue.symm.trans hue')
    rw [hrec]
    exact lookup_install hroom' hinst
  · obtain rfl := Option.some.inj (hue.symm.trans hue')
    rw [hrec]
    obtain ⟨info, hrow, hseid⟩ := lookup_install hroom' hinst
    exact ⟨info, hrow, hseid⟩

/-- The condition is needed, where the SEID to be issued is new to SESSION_MAP: the row of the
establishment is then a new one. -/
theorem Enforced.named
    (hnew : ∀ k info, w.maps.sessionMap.lookup k = some info → info.seid ≠ w.srv.nextSeid)
    (h : Enforced host env now data src w) : Named host env data src w := by
  intro req assoc ueIp hest hue hgnb hroom
  by_contra hnode
  obtain ⟨header, body, hd, ht, hreq⟩ : ∃ header body,
      PfcpHeader.decode (received data) = .ok (header, body) ∧
      header.msgType = pfcpSessionEstablishmentReq ∧
      SessionEstablishmentReq.decode body = .ok req := of_establishes hest
  have hinc : ¬ (validate header.msgType body).isOk := by
    rw [ht, validate_of_establishment hreq (by rw [hue]; rfl) hgnb]
    simpa only [ieTypes, hd] using hnode
  obtain ⟨info, hrow, hseid⟩ := lookup_receive now hest hue hgnb hroom
  rw [(h header body hd hinc).maps] at hrow
  exact hnew _ _ hrow hseid

end Enforced

/-- **An incomplete request is not accepted, unless it is an establishment that lacks its Node ID
and gets as far as its first insert.**  The second part needs that the SEID counter has not come
round: a row like the one inserted could stand there already. -/
theorem mandatory_enforced (host : Host) (b : Boot) (evs : List Event) (env : Env) (now : Instant)
    (data : Bytes) (src : SocketAddr) :
    (Named host env data src (Audit.after host b evs).world →
        Enforced host env now data src (Audit.after host b evs).world) ∧
      (Meets (Audit.step host) (Audit.IssuesBelow (2 ^ 64 - 1)) (Audit.init b) evs →
        Enforced host env now data src (Audit.after host b evs).world →
        Named host env data src (Audit.after host b evs).world) := by
  refine ⟨fun h => h.enforced, fun hm h => h.named ?_⟩
  exact (Audit.after_issued (n := 2 ^ 64 - 1) (by decide) (by decide) hm).1.sessionRow_ne

/-- A request without an F-SEID is not accepted, and the one of a simulator has its Node ID. -/
theorem mandatory_enforced_simulator :
    Enforced SmfSim.host SmfSim.env 0
        (finish (addNodeIdV4
          (PfcpHeader.newSessionMsg pfcpSessionEstablishmentReq 0 2).encode SmfSim.smfA))
        (SmfSim.peer SmfSim.smfA)
        (Audit.after SmfSim.host SmfSim.boot [SmfSim.setup SmfSim.smfA 5]).world ∧
      Named SmfSim.host SmfSim.env
        (SmfSim.sessionEstablishment 7 SmfSim.smfA SmfSim.ue1 SmfSim.gnb 0x80000001)
        (SmfSim.peer SmfSim.smfA)
        (Audit.after SmfSim.host SmfSim.boot [SmfSim.setup SmfSim.smfA 5]).world := by
  set data := SmfSim.sessionEstablishment 7 SmfSim.smfA SmfSim.ue1 SmfSim.gnb 0x80000001
  have hstopped : ∀ p ∈ establishes SmfSim.env (received (finish (addNodeIdV4
      (PfcpHeader.newSessionMsg pfcpSessionEstablishmentReq 0 2).encode SmfSim.smfA)))
      (SmfSim.peer SmfSim.smfA)
      (Audit.after SmfSim.host SmfSim.boot [SmfSim.setup SmfSim.smfA 5]).world, False := by
    decide +kernel
  have hcomplete : ∀ p ∈ (PfcpHeader.decode (received data)).toOption,
      (validate p.1.msgType p.2).isOk := by decide +kernel
  refine ⟨(mandatory_enforced SmfSim.host SmfSim.boot [SmfSim.setup SmfSim.smfA 5] SmfSim.env 0 _
      (SmfSim.peer SmfSim.smfA)).1 fun req assoc ueIp hest => absurd hest fun h => hstopped _ h,
    (mandatory_enforced SmfSim.host SmfSim.boot [SmfSim.setup SmfSim.smfA 5] SmfSim.env 0 data
      (SmfSim.peer SmfSim.smfA)).2 (by decide +kernel) fun header body hd hinc => ?_⟩
  exact absurd (hcomplete (header, body) (by rw [hd]; rfl)) hinc

/-- A simulator's establishment without its Node ID. -/
def SmfSim.anonymous : Bytes :=
  finish (addCreateFar (addCreatePdr (addFseid
    (PfcpHeader.newSessionMsg pfcpSessionEstablishmentReq 0 2).encode 7 SmfSim.smfA)
    (SmfSim.anyPacket 1 100 interfaceAccess SmfSim.ue1 2)) (SmfSim.toGnb 2 0x80000001))

/-- It is accepted. -/
theorem not_enforced_anonymous :
    ¬ Enforced SmfSim.host SmfSim.env 0 SmfSim.anonymous (SmfSim.peer SmfSim.smfA)
      (Audit.after SmfSim.host SmfSim.boot [SmfSim.setup SmfSim.smfA 5]).world := by
  intro h
  have hmsg : (PfcpHeader.decode (received SmfSim.anonymous)).toOption.map
      (fun p => (p.1.msgType, (validate p.1.msgType p.2).isOk)) =
        some (pfcpSessionEstablishmentReq, false) := by decide +kernel
  have hok : (receive SmfSim.host SmfSim.env 0 SmfSim.anonymous (SmfSim.peer SmfSim.smfA)
      (Audit.after SmfSim.host SmfSim.boot
        [SmfSim.setup SmfSim.smfA 5]).world).1.toOption.isSome := by
    decide +kernel
  obtain ⟨⟨header, body⟩, hd, hx⟩ := Option.map_eq_some_iff.mp hmsg
  obtain ⟨ht, hinc⟩ := Prod.mk.inj hx
  obtain ⟨err, herr⟩ := (h header body (ok_of_toOption hd) (by rw [hinc]; decide)).refused (.inr ht)
  rw [herr] at hok
  cases hok

end UpfEdge
