import UpfEdge.Smf.Link
import UpfEdge.Understood

/-!
# Whose session is it

A `SimSession` names a session of the UPF by the SEID the UPF gave in its response.  `AddSession`
takes that SEID from any Session Establishment Response it reads: it does not check the sequence
number, nor the SEID in the header, which is the one that the *request* had for the session.  A
request that was sent twice is answered twice, and the second answer may be read by the next
command.

`always_agreed_iff` says that the two parties agree in every state of a run exactly when every
response that an `AddSession` reads is addressed to its own session, or names one that is gone.
The counters of SEIDs on both sides are assumed not to come round.
-/

namespace UpfEdge

open Lib Pfcp Server

namespace SmfSim

/-! ### Responses -/

/-- The SEID that is read off a response is the one it was built with. -/
theorem seid_of_extractSessionInfo {seq : UInt32} {cpSeid seid : UInt64} {addr : Ipv4Addr}
    {pdrs : List (UInt16 × UInt32 × Ipv4Addr)} {info : UInt64 × UInt32 × Ipv4Addr}
    (h : extractSessionInfo (buildSessionEstablishmentResponse seq cpSeid seid addr pdrs) =
      .ok info) : info.1 = seid := by
  have h1 : pfcpIeNodeId ≠ pfcpIeFseid := by decide
  have h2 : pfcpIeCause ≠ pfcpIeFseid := by decide
  have hfseid : ((establishmentIes seid addr pdrs).find? (·.1 = pfcpIeFseid)).map (·.2) =
      some (0x02 :: (u64ToBe seid ++ addr.octets)) := by simp [establishmentIes, h1, h2]
  obtain ⟨fseid, hfind, hv⟩ := Option.map_eq_some_iff.mp
    ((findIe_flatMap (establishmentIes_fit seid addr pdrs) _).trans hfseid)
  unfold extractSessionInfo at h
  obtain ⟨⟨header, body⟩, hd, h⟩ := except_bind_ok h
  rw [buildSessionEstablishmentResponse_eq, decode_newSessionMsg] at hd
  obtain ⟨-, rfl⟩ := Prod.mk.inj (Except.ok.inj hd)
  obtain ⟨fseid', hfind', h⟩ := except_bind_ok h
  rw [expectIe, hfind] at hfind'
  obtain rfl : fseid = fseid' := Except.ok.inj hfind'
  obtain ⟨⟨upfSeid, n⟩, hparse, h⟩ := except_bind_ok h
  rw [hv, parseFseid_octets] at hparse
  obtain rfl : seid = upfSeid := (Prod.mk.inj (Except.ok.inj hparse)).1
  simp only at h
  split_ifs at h
  · obtain ⟨_, hthrow, -⟩ := except_bind_ok h
    cases hthrow
  · obtain ⟨pdr, -, h⟩ := except_bind_ok h
    obtain ⟨fteid, -, h⟩ := except_bind_ok h
    obtain ⟨⟨upfTeid, upfN3Addr⟩, -, h⟩ := except_bind_ok h
    simp only at h
    split_ifs at h
    · obtain ⟨_, hthrow, -⟩ := except_bind_ok h
      cases hthrow
    · obtain rfl := Except.ok.inj h
      rfl

theorem getElem_one_cut (data : Bytes) : (cut data)[1]? = data[1]? :=
  List.getElem?_take_of_lt (by decide)

/-- The response to an establishment with two PDRs fits the simulator's buffer. -/
theorem cut_establishmentRsp {seq : UInt32} {cpSeid seid : UInt64} {addr : Ipv4Addr} {teid : UInt32}
    {pdrs : List ParsedPDR} (h : pdrs.length ≤ 2) :
    cut (buildSessionEstablishmentResponse seq cpSeid seid addr (createdPdrs addr teid pdrs)) =
      buildSessionEstablishmentResponse seq cpSeid seid addr (createdPdrs addr teid pdrs) := by
  refine List.take_of_length_le ?_
  rw [buildSessionEstablishmentResponse_eq]
  have hlen := PfcpHeader.length_le_body
    (decode_newSessionMsg pfcpSessionEstablishmentRsp cpSeid seq
      ((establishmentIes seid addr (createdPdrs addr teid pdrs)).flatMap ieBytes))
  have hies := length_establishmentIes seid addr (createdPdrs addr teid pdrs)
  have hcreated := length_createdPdrs addr teid pdrs
  have hbound : ((createdPdrs addr teid pdrs).length + 3) * 23 ≤ (2 + 3) * 23 :=
    Nat.mul_le_mul_right _ (by omega)
  omega

/-- A Session Establishment Response of the UPF is to a request of the simulator: it names the
session of the SEID at the counter, and is addressed to the SEID that session has at the
simulator. -/
theorem establishmentRsp_sent {cfg : Config} {purposes : List Purpose} {host : Host} {a : Audit}
    {ev : Event}
    (hsrc : ∀ env now data src, ev = .datagram env now data src → Wrote cfg purposes data)
    {m : SocketAddr × Bytes} (hm : m ∈ a.sent host ev) {hdr : PfcpHeader} {body : Bytes}
    (hd : PfcpHeader.decode (cut m.2) = .ok (hdr, body))
    (ht : hdr.msgType = pfcpSessionEstablishmentRsp) {info : UInt64 × UInt32 × Ipv4Addr}
    (hinfo : extractSessionInfo (cut m.2) = .ok info) :
    info.1 = a.srv.nextSeid ∧ a.Issues ev ∧ ∃ cpSeid, hdr.seid = some cpSeid ∧
      ∀ data, (a.step host ev).Live info.1 data → data.cpSeid = cpSeid := by
  have hone : m.2[1]? = some pfcpSessionEstablishmentRsp := by
    rw [← getElem_one_cut, PfcpHeader.getElem_one_of_decode hd, ht]
  have hreports : ∀ {ev}, m ∉ (a.sys.handle host ev).2.map (fun r => (r.dest, r.message)) := by
    intro ev hmem
    obtain ⟨r, -, rfl⟩ := List.mem_map.mp hmem
    simp only [Report.message, buildSessionReportRequest, appendIe_eq, List.append_assoc] at hone
    rw [getElem_one_newSessionMsg] at hone
    cases hone
  cases ev with
  | snapshot | report | uplink | downlink => exact absurd hm hreports
  | datagram env now data src =>
    simp only [Audit.sent] at hm
    split at hm
    · next r hr =>
      split_ifs at hm
      · cases hm
      · obtain rfl := List.mem_singleton.mp hm
        cases hdec : PfcpHeader.decode (received data) with
        | error err =>
          simp only [receive, handleMessage, hdec] at hr
          cases hr
        | ok p =>
          obtain ⟨header, body'⟩ := p
          have ht' := type_of_establishmentRsp hr hone hdec
          rw [receive_establishment hdec ht'] at hr
          rcases hout : handleSessionEstablishment host.endian env header body' src
            (touched now a.world) with ⟨r', w'⟩
          rw [hout] at hr
          obtain rfl : r' = .ok r := hr
          obtain ⟨req, assoc, ueIp, gnbInfo, w₁, hreq, hfind, ⟨ip, port, rfl⟩, -, -, -, rfl, rfl⟩ :=
            establishment_accepted hout
          have hcount : req.createPdrs.length = 2 := by
            rcases (hsrc _ _ _ _ rfl).decode hdec with ⟨purpose, -, -, htype, rfl⟩ | htype
            · cases purpose with
              | addSession seq cpSeid ueIp' gnbTeid =>
                obtain ⟨req', hreq', -, -, hlen⟩ :=
                  Purpose.decode_addSession cfg cpSeid ueIp' gnbTeid
                obtain rfl : req' = req := Except.ok.inj (hreq'.symm.trans hreq)
                exact hlen
              | _ => cases ht'.symm.trans htype
            · cases ht'.symm.trans htype
          rw [cut_establishmentRsp (by rw [hcount])] at hd hinfo
          rw [buildSessionEstablishmentResponse_eq, decode_newSessionMsg] at hd
          obtain ⟨rfl, -⟩ := Prod.mk.inj (Except.ok.inj hd)
          have hseid : info.1 = a.srv.nextSeid := seid_of_extractSessionInfo hinfo
          refine ⟨hseid, ?_, req.cpSeid, rfl, fun d hlive => ?_⟩
          · have hest : establishes env (received data) (.v4 ip port) a.world = _ :=
              establishes_of_decode hdec ht' hreq ip port
            have hfind' : findAssociation env a.world.srv (.v4 ip port) = some assoc := hfind
            rw [hfind'] at hest
            exact Audit.Issues.of_establishes hest
          · have hw : (a.step host (.datagram env now data (.v4 ip port))).world =
                (receive host env now data (.v4 ip port) a.world).2 := rfl
            rw [receive_establishment hdec ht', hout] at hw
            rw [hseid, Audit.Live, Audit.srv, hw] at hlive
            have hnew := (Table.lookup_insert_ite ..).symm.trans hlive
            rw [if_pos (show a.srv.nextSeid = (touched now a.world).srv.nextSeid from rfl)] at hnew
            rw [← Option.some.inj hnew]
    · cases hm

/-! ### Agreement -/

namespace Link

variable {cfg : Config}

/-- **Agreement on SEIDs**: the UPF's session of a `SimSession`, if it is live, has its SEID and its
UE address. -/
def Agreed (l : Link cfg) : Prop :=
  ∀ key session, l.smf.state.sessions.lookup key = some session →
    ∀ data, l.upf.Live session.upfSeid data →
      data.cpSeid = session.cpSeid ∧ data.ueIp = session.ueIp

/-- A Session Establishment Response that an `AddSession` reads is addressed to the SEID the command
has chosen, unless it names no live session. -/
def Matched (l : Link cfg) : Act → Prop
  | .recv i k _ => ∀ t data attempt seq cpSeid ueIp gnbTeid hdr body info,
      l.smf.tasks[i]? = some t → l.inbox[k]? = some data → t.call.phase = .receiving attempt →
      t.purpose = .addSession seq cpSeid ueIp gnbTeid → PfcpHeader.decode data = .ok (hdr, body) →
      hdr.msgType = pfcpSessionEstablishmentRsp → extractSessionInfo data = .ok info →
      (l.upf.srv.sessions.lookup info.1).isSome → hdr.seid = some cpSeid
  | _ => True

/-- Neither counter of SEIDs comes round in the act. -/
def InStock (l : Link cfg) : Act → Prop
  | .addSession => l.smf.state.nextCpSeid.toNat < 2 ^ 64 - 1
  | .deliver k env now => ∀ data ∈ l.sent[k]?,
      l.upf.IssuesBelow (2 ^ 64 - 1) (.datagram env now data cfg.address)
  | _ => True

instance (l : Link cfg) : ∀ act, Decidable (l.InStock act)
  | .addSession => inferInstanceAs (Decidable (_ < _))
  | .deliver k env now => inferInstanceAs (Decidable (∀ data ∈ l.sent[k]?,
      l.upf.IssuesBelow (2 ^ 64 - 1) (.datagram env now data cfg.address)))
  | .delSession _ | .heartbeat _ | .associate _ | .keepalive _ | .sent .. | .recv .. | .lapse ..
  | .stray _ | .upf _ => inferInstanceAs (Decidable True)

/-- What holds whatever is read by whom. -/
structure Inv (l : Link cfg) : Prop where
  issued : l.upf.Issued (2 ^ 64 - 1)
  grant_lt : ∀ g ∈ l.smf.grants, g.1.toNat < l.smf.state.nextCpSeid.toNat
  grant_inj : ∀ g ∈ l.smf.grants, ∀ g' ∈ l.smf.grants, g.1 = g'.1 → g.2 = g'.2
  wrote : ∀ m ∈ l.sent, Wrote cfg l.smf.purposes m
  live : ∀ {s data}, l.upf.Live s data → (data.cpSeid, data.ueIp) ∈ l.smf.grants
  response : ∀ m ∈ l.inbox, ∀ {hdr body info}, PfcpHeader.decode m = .ok (hdr, body) →
    hdr.msgType = pfcpSessionEstablishmentRsp → extractSessionInfo m = .ok info →
    info.1.toNat < l.upf.srv.nextSeid.toNat ∧ ∃ cpSeid, hdr.seid = some cpSeid ∧
      ∀ data, l.upf.Live info.1 data → data.cpSeid = cpSeid
  held : ∀ {key session}, l.smf.state.sessions.lookup key = some session →
    session.cpSeid = key ∧ session.upfSeid.toNat < l.upf.srv.nextSeid.toNat ∧
      (key, session.ueIp) ∈ l.smf.grants

theorem start_inv (cfg : Config) (b : Boot) : (start cfg b).Inv where
  issued := Audit.init_issued (by decide) b
  grant_lt := nofun
  grant_inj := nofun
  wrote := nofun
  live h := by cases h
  response := nofun
  held h := by cases h

/-- The counter of the UPF goes up, strictly with every SEID. -/
theorem nextSeid_step (host : Host) {a : Audit} {ev : Event}
    (hbelow : a.IssuesBelow (2 ^ 64 - 1) ev) :
    a.srv.nextSeid.toNat ≤ (a.step host ev).srv.nextSeid.toNat ∧
      (a.Issues ev → a.srv.nextSeid.toNat < (a.step host ev).srv.nextSeid.toNat) := by
  rw [(Audit.step_counters host a ev).1]
  by_cases hiss : a.Issues ev
  · have hsucc := Audit.next_succ (hbelow hiss) (by decide)
    rw [if_pos hiss, hsucc]
    omega
  · rw [if_neg hiss]
    exact ⟨by simp, fun h => absurd h hiss⟩

variable {host : Host} {l : Link cfg}

/-- A session of a SEID that has been issued was there before the event. -/
theorem live_of_lt {a : Audit} {ev : Event} {s : UInt64} {data : SessionData}
    (hs : s.toNat < a.srv.nextSeid.toNat) (hlive : (a.step host ev).Live s data) :
    ∃ old, a.Live s old ∧ old.cpSeid = data.cpSeid ∧ old.ueIp = data.ueIp := by
  rcases Audit.session_of_move (Audit.step_move ..) hlive with hold | ⟨rfl, -⟩
  · exact hold
  · exact absurd hs (lt_irrefl _)

theorem upfStep_inv (h : l.Inv) {ev : Event} (hbelow : l.upf.IssuesBelow (2 ^ 64 - 1) ev)
    (hsrc : ∀ env now data src, ev = .datagram env now data src →
      Wrote cfg l.smf.purposes data) : (l.upfStep host ev).Inv := by
  obtain ⟨hmono, hstrict⟩ := nextSeid_step host hbelow
  refine ⟨h.issued.step (by decide) hbelow, h.grant_lt, h.grant_inj, h.wrote, ?_, ?_, ?_⟩
  · intro s data hlive
    rcases Audit.session_of_move (Audit.step_move ..) hlive with
      ⟨old, hold, hcp, hue⟩ | ⟨-, -, adm, hadm, hcp, hue⟩
    · rw [← hcp, ← hue]
      exact h.live hold
    · cases ev with
      | snapshot | report | uplink | downlink => cases hadm
      | datagram env now d src =>
        obtain ⟨seq, gnbTeid, hmem⟩ := (hsrc _ _ _ _ rfl).admission hadm
        rw [← hcp, ← hue]
        exact List.mem_filterMap.mpr ⟨_, hmem, rfl⟩
  · intro m hm hdr body info hd ht hinfo
    rcases List.mem_append.mp hm with hm | hm
    · obtain ⟨hlt, cpSeid, hseid, hcp⟩ := h.response m hm hd ht hinfo
      refine ⟨hlt.trans_le hmono, cpSeid, hseid, fun data hlive => ?_⟩
      obtain ⟨old, hold, hcp', -⟩ := live_of_lt hlt hlive
      rw [← hcp', hcp old hold]
    · obtain ⟨x, hx, rfl⟩ := List.mem_map.mp hm
      obtain ⟨hinfo', hiss, hcp⟩ := establishmentRsp_sent hsrc hx hd ht hinfo
      exact ⟨hinfo' ▸ hstrict hiss, hcp⟩
  · intro key session hkey
    obtain ⟨hcp, hlt, hgrant⟩ := h.held hkey
    exact ⟨hcp, hlt.trans_le hmono, hgrant⟩

/-- An act of the simulator that leaves its sessions, or takes some out. -/
theorem Inv.of_quiet (h : l.Inv) {l' : Link cfg} (hupf : l'.upf = l.upf)
    (hinbox : l'.inbox = l.inbox)
    (hsent : ∀ m ∈ l'.sent, m ∈ l.sent ∨ Wrote cfg l'.smf.purposes m)
    (hpur : l.smf.purposes ⊆ l'.smf.purposes) (hgrants : l'.smf.grants = l.smf.grants)
    (hnext : l'.smf.state.nextCpSeid = l.smf.state.nextCpSeid)
    (hheld : ∀ {key session}, l'.smf.state.sessions.lookup key = some session →
      session.cpSeid = key ∧ session.upfSeid.toNat < l.upf.srv.nextSeid.toNat ∧
        (key, session.ueIp) ∈ l.smf.grants) : l'.Inv := by
  refine ⟨hupf ▸ h.issued, ?_, ?_, ?_, ?_, ?_, ?_⟩
  · rw [hgrants, hnext]
    exact h.grant_lt
  · rw [hgrants]
    exact h.grant_inj
  · intro m hm
    rcases hsent m hm with hm | hm
    · exact (h.wrote m hm).mono hpur
    · exact hm
  · rw [hupf, hgrants]
    exact h.live
  · rw [hupf, hinbox]
    exact h.response
  · rw [hupf, hgrants]
    exact hheld

/-- An act of the simulator that takes the next of its SEIDs for a new session. -/
theorem Inv.grant (h : l.Inv) {l' : Link cfg} {ueIp : Ipv4Addr}
    (hstock : l.smf.state.nextCpSeid.toNat < 2 ^ 64 - 1) (hupf : l'.upf = l.upf)
    (hinbox : l'.inbox = l.inbox)
    (hsent : ∀ m ∈ l'.sent, m ∈ l.sent ∨ Wrote cfg l'.smf.purposes m)
    (hpur : l.smf.purposes ⊆ l'.smf.purposes)
    (hgrants : l'.smf.grants ⊆ l.smf.grants ++ [(l.smf.state.nextCpSeid, ueIp)])
    (hold : l.smf.grants ⊆ l'.smf.grants)
    (hnext : l'.smf.state.nextCpSeid = l.smf.state.nextCpSeid + 1)
    (hs : l'.smf.state.sessions = l.smf.state.sessions) : l'.Inv := by
  have hsucc : (l.smf.state.nextCpSeid + 1).toNat = l.smf.state.nextCpSeid.toNat + 1 := by
    rw [UInt64.toNat_add, UInt64.toNat_one]
    exact Nat.mod_eq_of_lt (by omega)
  have hcases : ∀ g ∈ l'.smf.grants, g ∈ l.smf.grants ∨ g = (l.smf.state.nextCpSeid, ueIp) := by
    intro g hg
    rcases List.mem_append.mp (hgrants hg) with hg | hg
    · exact .inl hg
    · exact .inr (List.mem_singleton.mp hg)
  have hfresh : ∀ g ∈ l.smf.grants, g.1 ≠ l.smf.state.nextCpSeid := by
    intro g hg heq
    exact absurd (h.grant_lt g hg) (by rw [heq]; exact lt_irrefl _)
  refine ⟨hupf ▸ h.issued, ?_, ?_, ?_, ?_, ?_, ?_⟩
  · intro g hg
    rw [hnext, hsucc]
    rcases hcases g hg with hg | rfl
    · exact (h.grant_lt g hg).trans (Nat.lt_succ_self _)
    · exact Nat.lt_succ_self _
  · intro g hg g' hg' heq
    rcases hcases g hg with hg | rfl <;> rcases hcases g' hg' with hg' | rfl
    · exact h.grant_inj g hg g' hg' heq
    · exact absurd heq (hfresh g hg)
    · exact absurd heq.symm (hfresh g' hg')
    · rfl
  · intro m hm
    rcases hsent m hm with hm | hm
    · exact (h.wrote m hm).mono hpur
    · exact hm
  · intro s data hlive
    exact hold (h.live (hupf ▸ hlive))
  · rw [hupf, hinbox]
    exact h.response
  · intro key session hkey
    rw [hs] at hkey
    obtain ⟨hcp, hlt, hgrant⟩ := h.held hkey
    exact ⟨hcp, hupf ▸ hlt, hold hgrant⟩

/-- What a stored session rests on. -/
theorem Inv.stored (h : l.Inv) {i k : ℕ} {t : Task cfg} {data : Bytes} {seq : UInt32}
    {cpSeid : UInt64} {ueIp : Ipv4Addr} {gnbTeid : UInt32} {upfSeid : UInt64} {upfTeid : UInt32}
    {upfN3Addr : Ipv4Addr} (ht : l.smf.tasks[i]? = some t) (hdata : l.inbox[k]? = some data)
    (hpurpose : t.purpose = .addSession seq cpSeid ueIp gnbTeid) {hdr : PfcpHeader} {body : Bytes}
    (hd : PfcpHeader.decode data = .ok (hdr, body))
    (htype : hdr.msgType = pfcpSessionEstablishmentRsp)
    (hinfo : extractSessionInfo data = .ok (upfSeid, upfTeid, upfN3Addr)) :
    (cpSeid, ueIp) ∈ l.smf.grants ∧ upfSeid.toNat < l.upf.srv.nextSeid.toNat ∧
      ∃ cpSeid', hdr.seid = some cpSeid' ∧
        ∀ data, l.upf.Live upfSeid data → data.cpSeid = cpSeid' := by
  obtain ⟨hlt, hcp⟩ := h.response data (List.mem_of_getElem? hdata) hd htype hinfo
  have hmem : t.purpose ∈ l.smf.purposes := List.mem_map_of_mem (List.mem_of_getElem? ht)
  exact ⟨List.mem_filterMap.mpr ⟨_, hmem, by rw [hpurpose]; rfl⟩, hlt, hcp⟩

theorem step_inv (h : l.Inv) {act : Act} (hstock : l.InStock act) : (l.step host act).Inv := by
  cases moved host l act with
  | delivered k env now data hact hdata heq =>
    subst hact
    rw [heq]
    refine upfStep_inv h (hstock data hdata) fun env' now' data' src' hev => ?_
    injection hev with _ _ hdata'
    exact hdata' ▸ h.wrote _ (List.mem_of_getElem? hdata)
  | upf ev hev heq =>
    rw [heq]
    refine upfStep_inv h (fun hiss => ?_) fun _ _ _ _ he => (hev _ _ _ _ he).elim
    cases ev with
    | datagram => exact (hev _ _ _ _ rfl).elim
    | snapshot | report | uplink | downlink => exact hiss.elim
  | stray data htype heq =>
    rw [heq]
    refine ⟨h.issued, h.grant_lt, h.grant_inj, h.wrote, h.live, ?_, h.held⟩
    intro m hm hdr body info hd ht hinfo
    rcases List.mem_append.mp hm with hm | hm
    · exact h.response m hm hd ht hinfo
    · obtain rfl := List.mem_singleton.mp hm
      rw [hd] at htype
      exact absurd (congrArg some ht) htype
  | smf hupf hinbox hsent hsmf =>
    cases hsmf with
    | quiet hq =>
      exact h.of_quiet hupf hinbox hsent hq.purposes hq.grants hq.nextCpSeid
        (by rw [hq.sessions]; exact h.held)
    | granted hact ueIp hpur hgrants hold hnext hs =>
      subst hact
      exact h.grant hstock hupf hinbox hsent hpur hgrants hold hnext hs
    | stored hact ht hdata hphase hpurpose htype hinfo hq hs =>
      obtain ⟨hdr, body, hd, htype⟩ := htype
      obtain ⟨hgrant, hlt, -⟩ := h.stored ht hdata hpurpose hd htype hinfo
      refine h.of_quiet hupf hinbox hsent hq.purposes hq.grants hq.nextCpSeid ?_
      intro key session hkey
      rw [hs, Table.lookup_insert_ite] at hkey
      split_ifs at hkey with heq
      · obtain rfl := Option.some.inj hkey
        exact ⟨heq.symm, hlt, heq ▸ hgrant⟩
      · exact h.held hkey
    | erased seid hq hs =>
      refine h.of_quiet hupf hinbox hsent hq.purposes hq.grants hq.nextCpSeid ?_
      intro key session hkey
      rw [hs, Table.lookup_erase_ite] at hkey
      split_ifs at hkey
      exact h.held hkey

/-- A matched act keeps the agreement. -/
theorem step_agreed (h : l.Inv) (ha : l.Agreed) {act : Act} (hm : l.Matched act) :
    (l.step host act).Agreed := by
  have hupfStep : ∀ ev, (l.upfStep host ev).Agreed := by
    intro ev key session hkey data hlive
    obtain ⟨old, hold, hcp, hue⟩ := live_of_lt (h.held hkey).2.1 hlive
    rw [← hcp, ← hue]
    exact ha key session hkey old hold
  cases moved host l act with
  | delivered k env now data hact hdata heq => exact heq ▸ hupfStep _
  | upf ev hev heq => exact heq ▸ hupfStep _
  | stray data htype heq => exact heq ▸ ha
  | smf hupf hinbox hsent hsmf =>
    intro key session hkey data hlive
    rw [hupf] at hlive
    cases hsmf with
    | quiet hq => exact ha key session (hq.sessions ▸ hkey) data hlive
    | granted hact ueIp hpur hgrants hold hnext hs => exact ha key session (hs ▸ hkey) data hlive
    | erased seid hq hs =>
      rw [hs, Table.lookup_erase_ite] at hkey
      split_ifs at hkey
      exact ha key session hkey data hlive
    | stored hact ht hdata hphase hpurpose htype hinfo hq hs =>
      subst hact
      rw [hs, Table.lookup_insert_ite] at hkey
      split_ifs at hkey with heq
      · obtain rfl := Option.some.inj hkey
        obtain ⟨hdr, body, hd, htype⟩ := htype
        obtain ⟨hgrant, -, cpSeid', hseid, hcp⟩ := h.stored ht hdata hpurpose hd htype hinfo
        have hown := hm _ _ _ _ _ _ _ _ _ _ ht hdata hphase hpurpose hd htype hinfo
          (by rw [hlive]; rfl)
        have hcp' : data.cpSeid = _ := (hcp data hlive).trans
          (Option.some.inj (hseid.symm.trans hown))
        -- the SEID has been given once, so the address is the one it was given with
        exact ⟨hcp', h.grant_inj _ (h.live hlive) _ hgrant hcp'⟩
      · exact ha key session hkey data hlive

/-- An act after which the parties agree was matched. -/
theorem matched_of_step_agreed (h : l.Inv) {act : Act} (ha : (l.step host act).Agreed) :
    l.Matched act := by
  cases act with
  | recv i k clock =>
    intro t data attempt seq cpSeid ueIp gnbTeid hdr body info ht hdata hphase hpurpose hd htype
      hinfo hlive
    obtain ⟨upfSeid, upfTeid, upfN3Addr⟩ := info
    obtain ⟨session, hsession⟩ := Option.isSome_iff_exists.mp hlive
    obtain ⟨-, -, cpSeid', hseid, hcp⟩ := h.stored ht hdata hpurpose hd htype hinfo
    obtain ⟨hupf, hsessions⟩ :=
      sessions_of_recv host clock ht hdata hphase hpurpose hd htype hinfo
    have hkey : (l.step host (.recv i k clock)).smf.state.sessions.lookup cpSeid =
        some { cpSeid, upfSeid, upfTeid, upfN3Addr, ueIp, gnbTeid } := by
      rw [hsessions, Table.lookup_insert_ite, if_pos rfl]
    have hlive' : (l.step host (.recv i k clock)).upf.Live upfSeid session := by
      rw [hupf]
      exact hsession
    have hcp' : session.cpSeid = cpSeid := (ha cpSeid _ hkey session hlive').1
    rw [hseid, ← hcp session hsession, hcp']
  | _ => trivial

/-- **The parties agree on SEIDs exactly when no `AddSession` reads another's response**, as long as
neither counter of SEIDs comes round. -/
theorem always_agreed_iff (host : Host) (cfg : Config) (b : Boot) (acts : List Act)
    (hstock : Meets (step host) InStock (start cfg b) acts) :
    Always (step host) Agreed (start cfg b) acts ↔ Meets (step host) Matched (start cfg b) acts :=
  always_iff_meets_of (fun _ _ h hs => step_inv h hs) (fun _ _ h ha _ hm => step_agreed h ha hm)
    (fun _ _ h _ _ ha => matched_of_step_agreed h ha) (start_inv cfg b)
    (fun _ _ hkey => by cases hkey) hstock

/-- The simulator sets up an association and adds a session.  The answer takes longer than the
timer, the request is sent again and answered again; the command reads the first answer.  The next
`AddSession` reads the second. -/
def lateAnswer : List Act :=
  [.associate 0, .sent 0 (.ok ()) 0, .deliver 0 env 0, .recv 0 0 0,
    .addSession, .sent 1 (.ok ()) 0, .deliver 1 env 0, .lapse 1 (.timeout 5000) 0,
    .sent 1 (.ok ()) 0, .deliver 2 env 0, .recv 1 1 0,
    .addSession, .sent 2 (.ok ()) 0, .recv 2 2 0]

theorem always_agreed_iff_lateAnswer :
    Meets (step SmfSim.host) InStock (start simConfig boot) lateAnswer ∧
      (Always (step SmfSim.host) Agreed (start simConfig boot) lateAnswer ↔
        Meets (step SmfSim.host) Matched (start simConfig boot) lateAnswer) := by
  have hstock : Meets (step SmfSim.host) InStock (start simConfig boot) lateAnswer := by
    decide +kernel
  exact ⟨hstock, always_agreed_iff _ _ _ _ hstock⟩

/-- The second command takes the first session's second half for its own. -/
theorem not_agreed_lateAnswer :
    ¬ Always (step SmfSim.host) Agreed (start simConfig boot) lateAnswer := by
  intro h
  have hsim : ((run (step SmfSim.host) (start simConfig boot) lateAnswer).smf.state.sessions.lookup
      2).map (fun s => (s.upfSeid, s.cpSeid)) = some (2, 2) := by decide +kernel
  have hupf : ((run (step SmfSim.host) (start simConfig boot) lateAnswer).upf.srv.sessions.lookup
      2).map (fun d => d.cpSeid) = some 1 := by decide +kernel
  obtain ⟨session, hkey, hs⟩ := Option.map_eq_some_iff.mp hsim
  obtain ⟨data, hlive, hd⟩ := Option.map_eq_some_iff.mp hupf
  obtain ⟨hseid, hcp⟩ := Prod.mk.inj hs
  have hagree := (h lateAnswer [] (List.append_nil _).symm 2 session hkey data
    (by rw [hseid]; exact hlive)).1
  rw [hd, hcp] at hagree
  cases hagree

end Link

end SmfSim

end UpfEdge
