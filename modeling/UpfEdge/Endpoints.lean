import UpfEdge.Datagrams
import UpfEdge.Pfcp.Wire
import UpfEdge.Rows
import UpfEdge.Selection
import UpfEdge.Server.Installation
import UpfEdge.SmfSim

/-!
# Where downlink tunnels come from

The tunnel of a downlink frame is read from one row: that of the FAR of the first core-side PDR when
the FAR forwards, else the SESSION_MAP row (`tunnelRow`).  A Create FAR without an Outer Header
Creation leaves zeros in its row, and an establishment leaves in the SESSION_MAP row the TEID that
the UPF has allocated for the other direction.

`Supply` keeps beside the UPF what the SMFs have supplied for each session, and which Outer Header
Creation each row was last written with.  A row that was last written with one holds it, and it is
one supplied for the session of the row (`Traced`).
-/

namespace UpfEdge

open Lib Pfcp Server Xdp

/-! ### The row of a tunnel -/

/-- A row that a tunnel endpoint is read from. -/
inductive TunnelRow where
  | far (k : FarKey)
  | session (k : SessionKey)

/-- The key of the FAR row that `downlink_get_far` ends at. -/
def coreFarKey (m : Maps) (session : SessionInfo) : Option FarKey :=
  session.listed.findSome? fun id =>
    (m.pdrMap.lookup (.new session.seid id)).bind fun pdr =>
      if pdr.sourceInterface ≠ ifaceCore then none
      else (m.farMap.lookup (.new session.seid pdr.farId)).map fun _ => .new session.seid pdr.farId

/-- The row that the tunnel of a downlink packet of the session is read from; `key` is the key of
the session's own row. -/
def tunnelRow (m : Maps) (key : SessionKey) (session : SessionInfo) : TunnelRow :=
  match coreFarKey m session with
  | some k => if (m.farMap.lookup k).any isForw then .far k else .session key
  | none => .session key

section TunnelRow

variable {m : Maps} {session : SessionInfo}

theorem downlinkGetFar_eq : downlinkGetFar m session =
    (coreFarKey m session).bind m.farMap.lookup := by
  unfold downlinkGetFar coreFarKey
  induction session.listed with
  | nil => rfl
  | cons id ids ih =>
    rw [List.findSome?_cons, List.findSome?_cons]
    cases hpdr : m.pdrMap.lookup (.new session.seid id) with
    | none => exact ih
    | some pdr =>
      simp only [Option.bind_some]
      by_cases hside : pdr.sourceInterface = ifaceCore
      · rw [if_neg (not_not.mpr hside), if_neg (not_not.mpr hside)]
        cases hfar : m.farMap.lookup (.new session.seid pdr.farId) with
        | none => exact ih
        | some far => exact hfar.symm
      · rw [if_pos hside, if_pos hside]
        exact ih

/-- A FAR row that is found is one of the session's. -/
theorem of_coreFarKey {k : FarKey} (h : coreFarKey m session = some k) :
    (∃ id, k = .new session.seid id) ∧ ∃ far, m.farMap.lookup k = some far := by
  obtain ⟨id, -, hid⟩ := List.exists_of_findSome?_eq_some h
  obtain ⟨pdr, -, hif⟩ := Option.bind_eq_some_iff.mp hid
  split_ifs at hif
  obtain ⟨far, hfar, rfl⟩ := Option.map_eq_some_iff.mp hif
  exact ⟨⟨_, rfl⟩, far, hfar⟩

/-- The endpoint of a tunnel is what its row holds. -/
theorem downlinkTunnel_eq (key : SessionKey) {tunnel : UInt32 × UInt32}
    (h : downlinkTunnel m session = some tunnel) :
    match tunnelRow m key session with
    | .far k => (∃ id, k = .new session.seid id) ∧
        ∃ far, m.farMap.lookup k = some far ∧ tunnel = (far.gnbIp, far.teid)
    | .session k => k = key ∧ tunnel = (session.gnbIp, session.teid) := by
  have hzero : coreFarKey m session ≠ none → session.pdrCount > 0 := by
    intro hne
    obtain ⟨k, hk⟩ := Option.ne_none_iff_exists'.mp hne
    obtain ⟨id, hid, -⟩ := List.exists_of_findSome?_eq_some hk
    obtain ⟨pre, post, hsplit⟩ := List.append_of_mem hid
    exact pdrCount_pos hsplit
  unfold downlinkTunnel at h
  rw [downlinkGetFar_eq] at h
  unfold tunnelRow
  cases hkey : coreFarKey m session with
  | none =>
    rw [hkey] at h
    simp only [Option.bind_none, ite_self] at h
    exact ⟨rfl, (Option.some.inj h).symm⟩
  | some k =>
    obtain ⟨hid, far, hfar⟩ := of_coreFarKey hkey
    rw [if_pos (hzero (by simp [hkey])), hkey, Option.bind_some, hfar] at h
    simp only at h
    simp only [hfar, Option.any_some]
    by_cases hforw : isForw far = true
    · simp only [hforw, if_true] at h ⊢
      split_ifs at h
      exact ⟨hid, far, hfar, (Option.some.inj h).symm⟩
    · simp only [hforw, if_false, Bool.false_eq_true] at h ⊢
      split_ifs at h
      exact ⟨trivial, (Option.some.inj h).symm⟩

end TunnelRow

/-! ### What the SMFs have supplied -/

/-- The Outer Header Creations of some FARs, as supplied for a SEID. -/
def offers (seid : UInt64) (fars : List ParsedFAR) : List (UInt64 × OuterHeaderCreation) :=
  fars.filterMap fun far => far.outerHeaderCreation.map (seid, ·)

/-- The UPF, every Outer Header Creation that was supplied for a SEID, and the one that each row was
last written with: `some none` is a row written without one. -/
structure Supply where
  audit : Audit
  supplied : List (UInt64 × OuterHeaderCreation)
  farTunnels : Table FarKey (Option OuterHeaderCreation)
  rowTunnels : Table SessionKey (Option OuterHeaderCreation)

namespace Supply

def init (b : Boot) : Supply where
  audit := .init b
  supplied := []
  farTunnels := ∅
  rowTunnels := ∅

/-- A list of writes entered in a ledger. -/
def enter {K : Type} [DecidableEq K] (t : Table K (Option OuterHeaderCreation))
    (writes : List (K × Option OuterHeaderCreation)) : Table K (Option OuterHeaderCreation) :=
  writes.foldl (fun t p => t.insert p.1 p.2) t

/-- What the ledgers note of an establishment that gets a SEID.  One that is not accepted may have
left some of its rows, of which nothing is noted. -/
def establish (host : Host) (s : Supply) (ev : Event) (req : SessionEstablishmentReq) : Supply where
  audit := s.audit.step host ev
  supplied := offers s.audit.srv.nextSeid req.createFars ++ s.supplied
  farTunnels := enter s.farTunnels <| req.createFars.map fun far =>
    (.new s.audit.srv.nextSeid far.farId,
      if s.audit.answered host ev then far.outerHeaderCreation else none)
  rowTunnels := enter s.rowTunnels <|
    (s.audit.admission ev).toList.map fun adm => (.ofIp host.endian adm.ueIp, none)

/-- What they note of an accepted modification. -/
def modify (host : Host) (s : Supply) (ev : Event) (seid : UInt64) (session : SessionData)
    (req : SessionModificationReq) : Supply where
  audit := s.audit.step host ev
  supplied := offers seid req.updateFars ++ s.supplied
  farTunnels := enter s.farTunnels <|
    (farWrites seid req.updateFars).map fun p => (p.1, some p.2)
  rowTunnels := enter s.rowTunnels <|
    (accessWrites (.ofIp host.endian session.ueIp) req.updateFars).map fun p => (p.1, some p.2)

def step (host : Host) (s : Supply) : Event → Supply
  | .datagram env now data src =>
    match establishes env (received data) src s.audit.world,
      s.audit.modification (.datagram env now data src) with
    | some (req, _), _ => s.establish host (.datagram env now data src) req
    | none, some (seid, session, req) =>
      s.modify host (.datagram env now data src) seid session req
    | none, none => { s with audit := s.audit.step host (.datagram env now data src) }
  | ev => { s with audit := s.audit.step host ev }

/-- The row was last written with an Outer Header Creation. -/
def Given (s : Supply) : TunnelRow → Prop
  | .far k => ∃ ohc, s.farTunnels.lookup k = some (some ohc)
  | .session k => ∃ ohc, s.rowTunnels.lookup k = some (some ohc)

instance (s : Supply) : ∀ row, Decidable (s.Given row)
  | .far k => decidable_of_iff ((s.farTunnels.lookup k).join.isSome) (by
      simp [Given, Option.isSome_iff_exists, Option.join_eq_some_iff])
  | .session k => decidable_of_iff ((s.rowTunnels.lookup k).join.isSome) (by
      simp [Given, Option.isSome_iff_exists, Option.join_eq_some_iff])

/-- A frame that is redirected to N3 goes to an address, under a TEID, that the SMF has supplied for
the session of the frame in one Outer Header Creation. -/
def FromSmf (host : Host) (s : Supply) (ev : Event) : Prop :=
  ∀ x f, ev = .downlink x f → ∀ t session outer,
    downlinkMatch host.endian f s.audit.maps = some (t, session) →
    (Frame.n6 x f).verdict host.endian s.audit.maps = .redirect outer →
    ∃ ohc, (session.seid, ohc) ∈ s.supplied ∧ outer = some (ohc.peerAddr.octets, u32ToBe ohc.teid)

/-- The row that a frame's tunnel is read from, when the frame is redirected, was last written with
an Outer Header Creation. -/
def TunnelGiven (host : Host) (s : Supply) (ev : Event) : Prop :=
  ∀ x f, ev = .downlink x f → ∀ t session,
    downlinkMatch host.endian f s.audit.maps = some (t, session) →
    ((Frame.n6 x f).verdict host.endian s.audit.maps).isRedirect = true →
    s.Given (tunnelRow s.audit.maps ⟨t.dstIp⟩ session)

instance (host : Host) (s : Supply) : ∀ ev, Decidable (s.TunnelGiven host ev)
  | .downlink x f =>
    decidable_of_iff
      ((downlinkMatch host.endian f s.audit.maps).all fun p =>
        decide (((Frame.n6 x f).verdict host.endian s.audit.maps).isRedirect = true →
          s.Given (tunnelRow s.audit.maps ⟨p.1.dstIp⟩ p.2))) <| by
      rw [Option.all_eq_true]
      simp only [decide_eq_true_eq]
      constructor
      · rintro h _ _ ⟨⟩ t session hmatch
        exact h (t, session) hmatch
      · intro h p hmatch
        exact h x f rfl p.1 p.2 hmatch
  | .datagram .. | .snapshot _ | .report _ | .uplink .. => .isTrue (by rintro _ _ ⟨⟩)

/-- What the ledgers say of the rows: what a row was last written with it holds, and it was supplied
for the session of the row. -/
structure Traced (host : Host) (s : Supply) : Prop where
  issued : Audit.Issued (2 ^ 48) s.audit
  own : s.audit.OwnRows host
  far : ∀ k fv ohc, s.audit.maps.farMap.lookup k = some fv →
    s.farTunnels.lookup k = some (some ohc) →
      setFar host.endian ohc fv = fv ∧ (seidPart k.key, ohc) ∈ s.supplied
  row : ∀ k info ohc, s.audit.maps.sessionMap.lookup k = some info →
    s.rowTunnels.lookup k = some (some ohc) →
      setRow host.endian ohc info = info ∧ (info.seid, ohc) ∈ s.supplied

/-- SEIDs stay below `2 ^ 48`, and live sessions have different addresses. -/
def Premise (s : Supply) (ev : Event) : Prop :=
  s.audit.IssuesBelow (2 ^ 48) ev ∧ s.audit.NewAddress ev

instance (s : Supply) (ev : Event) : Decidable (s.Premise ev) := inferInstanceAs (Decidable (_ ∧ _))

section Step

variable {host : Host} {s : Supply} {ev : Event}

theorem lookup_enter {K : Type} [DecidableEq K] (t : Table K (Option OuterHeaderCreation))
    (writes : List (K × Option OuterHeaderCreation)) (k : K) :
    (enter t writes).lookup k = (lastPut writes k).or (t.lookup k) := by
  rw [enter, Table.lookup_foldl_insert_eq, foldl_put_eq]

theorem mem_offers {seid : UInt64} {fars : List ParsedFAR} {far : ParsedFAR}
    {ohc : OuterHeaderCreation} (hfar : far ∈ fars) (h : far.outerHeaderCreation = some ohc) :
    (seid, ohc) ∈ offers seid fars :=
  List.mem_filterMap.mpr ⟨far, hfar, by rw [h]; rfl⟩

theorem mem_offers_of_farWrites {seid : UInt64} {fars : List ParsedFAR} {k : FarKey}
    {ohc : OuterHeaderCreation} (h : (k, ohc) ∈ farWrites seid fars) :
    (∃ id, k = .new seid id) ∧ (seid, ohc) ∈ offers seid fars := by
  obtain ⟨far, hfar, hw⟩ := List.mem_filterMap.mp h
  obtain ⟨ohc', hohc, heq⟩ := Option.map_eq_some_iff.mp hw
  obtain ⟨rfl, rfl⟩ := Prod.mk.inj heq
  exact ⟨⟨_, rfl⟩, mem_offers hfar hohc⟩

theorem mem_offers_of_accessWrites (seid : UInt64) {fars : List ParsedFAR} {key k : SessionKey}
    {ohc : OuterHeaderCreation} (h : (k, ohc) ∈ accessWrites key fars) :
    k = key ∧ (seid, ohc) ∈ offers seid fars := by
  obtain ⟨far, hfar, hw⟩ := List.mem_filterMap.mp h
  obtain ⟨ohc', hohc, heq⟩ := Option.map_eq_some_iff.mp hw
  obtain ⟨rfl, rfl⟩ := Prod.mk.inj heq
  unfold accessTunnel at hohc
  split_ifs at hohc
  exact ⟨rfl, mem_offers hfar hohc⟩

theorem init_traced (host : Host) (b : Boot) : Traced host (init b) where
  issued := Audit.init_issued (by decide) b
  own t data hlive := by cases hlive
  far k fv ohc hrow := by cases hrow
  row k info ohc hrow := by cases hrow

/-- The ledgers only watch: the system under them takes its own steps. -/
theorem step_audit (host : Host) (s : Supply) (ev : Event) :
    (s.step host ev).audit = s.audit.step host ev := by
  cases ev with
  | datagram env now data src =>
    simp only [step]
    split <;> rfl
  | snapshot | report | uplink | downlink => rfl

/-- A step that writes no rule: rows may only have gone. -/
theorem Traced.of_rest {s' : Supply} (h : Traced host s)
    (hissued : Audit.Issued (2 ^ 48) s'.audit) (hown : s'.audit.OwnRows host)
    (hsup : s'.supplied = s.supplied) (hft : s'.farTunnels = s.farTunnels)
    (hrt : s'.rowTunnels = s.rowTunnels)
    (hfar : ∀ k fv, s'.audit.maps.farMap.lookup k = some fv →
      s.audit.maps.farMap.lookup k = some fv)
    (hrow : ∀ k info, s'.audit.maps.sessionMap.lookup k = some info →
      s.audit.maps.sessionMap.lookup k = some info) : Traced host s' where
  issued := hissued
  own := hown
  far k fv ohc hk hohc := by
    rw [hsup]
    exact h.far k fv ohc (hfar k fv hk) (by rw [← hft]; exact hohc)
  row k info ohc hk hohc := by
    rw [hsup]
    exact h.row k info ohc (hrow k info hk) (by rw [← hrt]; exact hohc)

/-- An establishment: the rows of the new SEID are those of its Create FARs. -/
theorem Traced.establish (h : Traced host s) {env : Env} {now : Instant} {data : Bytes}
    {src : SocketAddr}
    (hissued : Audit.Issued (2 ^ 48) (s.audit.step host (.datagram env now data src)))
    (hown : (s.audit.step host (.datagram env now data src)).OwnRows host)
    (hlt : s.audit.srv.nextSeid.toNat < 2 ^ 48) {req : SessionEstablishmentReq}
    {assoc : SmfAssociation} {ueIp : Ipv4Addr} {gnbInfo : OuterHeaderCreation} {w' : World}
    (hadm : s.audit.admission (.datagram env now data src) =
      some ⟨src, assoc, req.cpSeid, ueIp⟩)
    (hinst : install (installSteps host.endian env s.audit.srv.n3Addr s.audit.srv.nextSeid
      s.audit.srv.nextTeid ueIp gnbInfo req) (allocated (touched now s.audit.world)) =
        (s.audit.answered host (.datagram env now data src), w'))
    (hm : (s.audit.step host (.datagram env now data src)).maps = w'.maps) :
    Traced host (s.establish host (.datagram env now data src) req) := by
  refine ⟨hissued, hown, fun k fv ohc hk hohc => ?_, fun k info ohc hk hohc => ?_⟩
  · have hledger : (s.establish host (.datagram env now data src) req).farTunnels.lookup k =
        ((lastPut (farsOf s.audit.srv.nextSeid req) k).map fun far =>
          if s.audit.answered host (.datagram env now data src) then far.outerHeaderCreation
          else none).or (s.farTunnels.lookup k) := by
      rw [← lastPut_map, farsOf, List.map_map]
      exact lookup_enter ..
    rw [hledger] at hohc
    obtain ⟨hother, hnew⟩ := installed_far hinst k
    rw [← hm] at hother hnew
    cases hlast : lastPut (farsOf s.audit.srv.nextSeid req) k with
    | none =>
      rw [hlast] at hohc
      obtain ⟨hset, hsup⟩ := h.far k fv ohc ((hother hlast).symm.trans hk) hohc
      exact ⟨hset, List.mem_append_right _ hsup⟩
    | some far =>
      obtain ⟨hmem, hkey⟩ := mem_farsOf hlast
      rw [hlast] at hohc
      have hgiven : (if s.audit.answered host (.datagram env now data src) then
          far.outerHeaderCreation else none) = some ohc := Option.some.inj hohc
      split_ifs at hgiven with hanswer
      -- accepted, so all the inserts were made, and this row is the one of the last Create FAR
      rw [← Option.some.inj ((hnew far hanswer hlast).symm.trans hk)]
      refine ⟨?_, ?_⟩
      · simp only [setFar, farValue, hgiven, Option.map_some, Option.getD_some]
      · rw [hkey, show seidPart (FarKey.new s.audit.srv.nextSeid far.farId).key =
          s.audit.srv.nextSeid from seidPart_composeKey_of_lt hlt _]
        exact List.mem_append_left _ (mem_offers hmem hgiven)
  · have hledger : (s.establish host (.datagram env now data src) req).rowTunnels.lookup k =
        if k = .ofIp host.endian ueIp then some none else s.rowTunnels.lookup k := by
      simp only [Supply.establish, hadm]
      exact Table.lookup_insert_ite ..
    rw [hledger] at hohc
    split_ifs at hohc with hkey
    · cases Option.some.inj hohc
    · have hold : s.audit.maps.sessionMap.lookup k = some info := by
        rw [← (installed hinst).kept.sessionRow k hkey, ← hm]
        exact hk
      obtain ⟨hset, hsup⟩ := h.row k info ohc hold hohc
      exact ⟨hset, List.mem_append_right _ hsup⟩

/-- A row that a list of changes was made to, with the changes entered: it is as before, or it was
last changed with what the ledger says. -/
theorem of_overwrite {K V : Type} [DecidableEq K] {set : OuterHeaderCreation → V → V}
    (hset : ∀ p q v, set p (set q v) = set p v) {us : List (K × OuterHeaderCreation)}
    {f : K → Option V} {t : Table K (Option OuterHeaderCreation)} {k : K} {v : V}
    {ohc : OuterHeaderCreation} (hv : us.foldl (overwrite set) f k = some v)
    (hohc : (enter t (us.map fun p => (p.1, some p.2))).lookup k = some (some ohc)) :
    (f k = some v ∧ t.lookup k = some (some ohc)) ∨
      (k, ohc) ∈ us ∧ ∃ v', f k = some v' ∧ v = set ohc v' := by
  rw [lookup_enter, lastPut_map] at hohc
  rw [foldl_overwrite_eq hset] at hv
  obtain ⟨v', hv', heq⟩ := Option.map_eq_some_iff.mp hv
  cases hlast : lastPut us k with
  | none =>
    rw [hlast] at hohc heq
    obtain rfl : v' = v := heq
    exact .inl ⟨hv', hohc⟩
  | some ohc' =>
    rw [hlast] at hohc heq
    obtain rfl : ohc' = ohc := Option.some.inj (Option.some.inj hohc)
    exact .inr ⟨mem_of_lastPut hlast, v', hv', heq.symm⟩

/-- A modification: the rows that are written are the session's own. -/
theorem Traced.modify (h : Traced host s) {ev : Event} {now : Instant} {seid : UInt64}
    {session : SessionData} {req : SessionModificationReq}
    (hissued : Audit.Issued (2 ^ 48) (s.audit.step host ev))
    (hown : (s.audit.step host ev).OwnRows host) (hlive : s.audit.Live seid session)
    (hw : (s.audit.step host ev).world =
      modifySession host.endian seid session.ueIp req (touched now s.audit.world)) :
    Traced host (s.modify host ev seid session req) := by
  have hlt : seid.toNat < 2 ^ 48 := lt_of_lt_of_le (h.issued.live hlive) h.issued.next_le
  refine ⟨hissued, hown, fun k fv ohc hk hohc => ?_, fun k info ohc hk hohc => ?_⟩
  · have hk' : (farWrites seid req.updateFars).foldl (overwrite (setFar host.endian))
        s.audit.maps.farMap.lookup k = some fv := by
      rw [← hk]
      change _ = (s.audit.step host ev).world.maps.farMap.lookup k
      rw [hw, modifySession_farMap]
      rfl
    rcases of_overwrite (setFar_setFar host.endian) hk' hohc with
      ⟨hold, hohc'⟩ | ⟨hmem, fv', -, rfl⟩
    · obtain ⟨hset, hsup⟩ := h.far k fv ohc hold hohc'
      exact ⟨hset, List.mem_append_right _ hsup⟩
    · obtain ⟨⟨id, rfl⟩, hoffer⟩ := mem_offers_of_farWrites hmem
      refine ⟨setFar_setFar .., ?_⟩
      rw [show seidPart (FarKey.new seid id).key = seid from seidPart_composeKey_of_lt hlt _]
      exact List.mem_append_left _ hoffer
  · have hk' : (accessWrites (.ofIp host.endian session.ueIp) req.updateFars).foldl
        (overwrite (setRow host.endian)) s.audit.maps.sessionMap.lookup k = some info := by
      rw [← hk]
      change _ = (s.audit.step host ev).world.maps.sessionMap.lookup k
      rw [hw, modifySession_sessionMap]
      rfl
    rcases of_overwrite (setRow_setRow host.endian) hk' hohc with
      ⟨hold, hohc'⟩ | ⟨hmem, info', hold, rfl⟩
    · obtain ⟨hset, hsup⟩ := h.row k info ohc hold hohc'
      exact ⟨hset, List.mem_append_right _ hsup⟩
    · obtain ⟨rfl, hoffer⟩ := mem_offers_of_accessWrites seid hmem
      refine ⟨setRow_setRow .., ?_⟩
      -- the row at the address of the session is its own
      obtain ⟨info, hrow, hseid⟩ := h.own seid session hlive
      obtain rfl : info = info' := Option.some.inj (hrow.symm.trans hold)
      change (info.seid, ohc) ∈ _
      rw [hseid]
      exact List.mem_append_left _ hoffer

/-- An establishment that installs nothing: no row has a key of the SEID it got. -/
theorem Traced.refuse (h : Traced host s) {ev : Event} {req : SessionEstablishmentReq}
    (hissued : Audit.Issued (2 ^ 48) (s.audit.step host ev))
    (hown : (s.audit.step host ev).OwnRows host) (hlt : s.audit.srv.nextSeid.toNat < 2 ^ 48)
    (hadm : s.audit.admission ev = none) (hm : (s.audit.step host ev).maps = s.audit.maps) :
    Traced host (s.establish host ev req) := by
  refine ⟨hissued, hown, fun k fv ohc hk hohc => ?_, fun k info ohc hk hohc => ?_⟩
  · have hold : s.audit.maps.farMap.lookup k = some fv := by rw [← hm]; exact hk
    have hkey : lastPut (req.createFars.map fun far => (FarKey.new s.audit.srv.nextSeid far.farId,
        if s.audit.answered host ev then far.outerHeaderCreation else none)) k = none := by
      rw [lastPut_eq_none_iff]
      rw [List.map_map]
      intro hp
      obtain ⟨far, -, hpk⟩ := List.mem_map.mp hp
      have hbelow := h.issued.farRow (k := k) (by rw [hold]; rfl)
      rw [← hpk, Function.comp, show seidPart (FarKey.new s.audit.srv.nextSeid far.farId).key =
        s.audit.srv.nextSeid from seidPart_composeKey_of_lt hlt _] at hbelow
      exact lt_irrefl _ hbelow
    have hohc' : s.farTunnels.lookup k = some (some ohc) := by
      rw [← hohc]
      change _ = (enter s.farTunnels _).lookup k
      rw [lookup_enter, hkey]
      rfl
    obtain ⟨hset, hsup⟩ := h.far k fv ohc hold hohc'
    exact ⟨hset, List.mem_append_right _ hsup⟩
  · have hohc' : s.rowTunnels.lookup k = some (some ohc) := by
      rw [← hohc]
      simp only [Supply.establish, hadm]
      rfl
    obtain ⟨hset, hsup⟩ := h.row k info ohc (by rw [← hm]; exact hk) hohc'
    exact ⟨hset, List.mem_append_right _ hsup⟩

/-- An event that is no datagram. -/
theorem Traced.count (h : Traced host s) (hissued : Audit.Issued (2 ^ 48) (s.audit.step host ev))
    (hown : (s.audit.step host ev).OwnRows host)
    (hother : ∀ env now data src, ev ≠ .datagram env now data src) :
    Traced host { s with audit := s.audit.step host ev } := by
  obtain ⟨stats, urrs, hm⟩ := step_counters host s.audit hother
  refine h.of_rest hissued hown rfl rfl rfl (fun k fv hk => ?_) fun k info hk => ?_
  · rw [hm] at hk
    exact hk
  · rw [hm] at hk
    exact hk

/-- **One step keeps the ledgers true of the rows.** -/
theorem Traced.step (h : Traced host s) (hg : s.Premise ev) : Traced host (s.step host ev) := by
  obtain ⟨hbelow, hnew⟩ := hg
  have hissued : Audit.Issued (2 ^ 48) (s.audit.step host ev) := h.issued.step (by decide) hbelow
  have hown : (s.audit.step host ev).OwnRows host := h.own.step hnew
  cases ev with
  | snapshot | report | uplink | downlink =>
    exact h.count hissued hown (by rintro _ _ _ _ ⟨⟩)
  | datagram env now data src =>
    simp only [Supply.step]
    cases step_writes host s.audit env now data src with
    | nothing hadm hmod hdel hm =>
      rw [hmod]
      cases hest : establishes env (received data) src s.audit.world with
      | none =>
        refine h.of_rest hissued hown rfl rfl rfl (fun k fv hk => ?_) fun k info hk => ?_
        · rw [← hm]
          exact hk
        · rw [← hm]
          exact hk
      | some p =>
        have hlt : s.audit.srv.nextSeid.toNat < 2 ^ 48 := hbelow (.of_establishes hest)
        exact h.refuse hissued hown hlt hadm hm
    | rules req assoc ueIp gnbInfo w' hest hue hgnb hmod hdel hinst hm =>
      rw [hest]
      have hlt : s.audit.srv.nextSeid.toNat < 2 ^ 48 := hbelow (.of_establishes hest)
      exact h.establish hissued hown hlt (Audit.admission_of hest hue hgnb) hinst hm
    | modified seid session req hiss hmod hdel hlive hw =>
      have hest : establishes env (received data) src s.audit.world = none :=
        Option.not_isSome_iff_eq_none.mp hiss
      rw [hest, hmod]
      exact h.modify hissued hown hlive hw
    | deleted seid session assoc hiss hmod hdel hlive hm =>
      have hest : establishes env (received data) src s.audit.world = none :=
        Option.not_isSome_iff_eq_none.mp hiss
      rw [hest, hmod]
      refine h.of_rest hissued hown rfl rfl rfl (fun k fv hk => ?_) fun k info hk => ?_
      · change (s.audit.step host (.datagram env now data src)).maps.farMap.lookup k = _ at hk
        rw [hm, farMap_removeRules] at hk
        split_ifs at hk
        exact hk
      · change (s.audit.step host (.datagram env now data src)).maps.sessionMap.lookup k = _ at hk
        rw [hm, sessionMap_removeRules] at hk
        split_ifs at hk
        exact hk

/-- A downlink frame that is redirected goes to the session's tunnel. -/
theorem of_render {e : Endian} {m : Maps} {session : SessionInfo} {x : XdpEnv} {f : Bytes}
    {drop : Bool} {outer : Option (Bytes × Bytes)}
    (h : (Frame.n6 x f).render e (if drop then none else (Frame.n6 x f).target m session) =
      .redirect outer) :
    ∃ tunnel, downlinkTunnel m session = some tunnel ∧
      outer = some (e.store32 tunnel.1, e.store32 tunnel.2) := by
  cases drop with
  | true => cases h
  | false =>
    simp only [Bool.false_eq_true, if_false, Frame.target] at h
    cases htunnel : downlinkTunnel m session with
    | none =>
      rw [htunnel] at h
      cases h
    | some tunnel =>
      rw [htunnel] at h
      simp only [Option.map_some, Frame.render] at h
      split_ifs at h
      exact ⟨tunnel, rfl, (Verdict.redirect.inj h).symm⟩

/-- What a row holds of an Outer Header Creation is written to the frame in network order. -/
theorem store_ohc (e : Endian) (ohc : OuterHeaderCreation) :
    (e.store32 (e.toBe32 ohc.peerAddr.toU32), e.store32 (e.toBe32 ohc.teid)) =
      (ohc.peerAddr.octets, u32ToBe ohc.teid) := by
  have hteid : (u32ToBe ohc.teid).length = 4 := length_bytesBe ..
  rw [Ipv4Addr.toU32, toBe32_ofBe e rfl, store32_load32 e rfl, Endian.toBe32,
    store32_load32 e hteid]

/-- A frame whose tunnel is read from a row that was last written with an Outer Header Creation. -/
theorem Traced.fromSmf (h : Traced host s) (hg : s.TunnelGiven host ev) : s.FromSmf host ev := by
  intro x f hev t session outer hmatch hverdict
  have hgiven := hg x f hev t session hmatch (by rw [hverdict]; rfl)
  rw [Frame.verdict_of_matched (show (Frame.n6 x f).matched host.endian s.audit.maps =
    some (t, session) from hmatch)] at hverdict
  obtain ⟨tunnel, htunnel, houter⟩ := of_render hverdict
  have hrow := (downlinkMatch_row hmatch).2
  have heq := downlinkTunnel_eq ⟨t.dstIp⟩ htunnel
  cases hread : tunnelRow s.audit.maps ⟨t.dstIp⟩ session with
  | far k =>
    rw [hread] at hgiven heq
    obtain ⟨⟨id, rfl⟩, far, hfar, rfl⟩ := heq
    obtain ⟨ohc, hohc⟩ := hgiven
    obtain ⟨hset, hsup⟩ := h.far _ far ohc hfar hohc
    rw [show seidPart (FarKey.new session.seid id).key = session.seid from
      seidPart_composeKey_of_lt (lt_of_lt_of_le (h.issued.sessionRow hrow) h.issued.next_le) _]
      at hsup
    refine ⟨ohc, hsup, ?_⟩
    rw [houter, ← hset]
    exact congrArg some (store_ohc ..)
  | session k =>
    rw [hread] at hgiven heq
    obtain ⟨rfl, rfl⟩ := heq
    obtain ⟨ohc, hohc⟩ := hgiven
    obtain ⟨hset, hsup⟩ := h.row _ session ohc hrow hohc
    refine ⟨ohc, hsup, ?_⟩
    rw [houter, ← hset]
    exact congrArg some (store_ohc ..)

end Step

/-- **Downlink tunnels come from the SMF.**  In a run in which every frame that is redirected to N3
is sent into the tunnel of a row that was last written with an Outer Header Creation, every such
frame goes to the address and the TEID of one that the SMF has supplied for the session. -/
theorem fromSmf_of_given (host : Host) (b : Boot) (evs : List Event)
    (h : Meets (step host) (fun s ev => s.Premise ev ∧ s.TunnelGiven host ev) (init b) evs) :
    Meets (step host) (FromSmf host) (init b) evs :=
  h.of_inv (I := Traced host) (fun _ _ hi hg => hi.step hg.1) (fun _ _ hi hg => hi.fromSmf hg.2)
    (init_traced host b)

open SmfSim

/-- The simulator's session, before and after its gNB changes. -/
theorem fromSmf_of_given_sim :
    Meets (step host) (FromSmf host) (init boot)
      [setup smfA 1, SmfSim.establish smfA 1 ue1, .downlink machine (downlinkFrame ue1),
        sends smfA (tunnelModification 1 gnb), .downlink machine (downlinkFrame ue1)] :=
  fromSmf_of_given host boot _ (by decide +kernel)

/-- A session whose only PDR is for the uplink. -/
def uplinkOnly : Event :=
  sends smfA (establishmentWith 1 smfA [anyPacket 1 100 interfaceAccess ue1 1]
    [{ farId := 1, applyAction := actionForw, destInterface := interfaceCore
       outerHeaderCreation := none }, toGnb 2 0x80000001] [])

/-- Its downlink frames go out under the TEID that the UPF has allocated, 1000: the SMF has supplied
`0x80000001`. -/
theorem not_fromSmf_uplinkOnly :
    Meets (step host) Premise (init boot)
        [setup smfA 1, uplinkOnly, .downlink machine (downlinkFrame ue1)] ∧
      ¬ Meets (step host) (FromSmf host) (init boot)
        [setup smfA 1, uplinkOnly, .downlink machine (downlinkFrame ue1)] := by
  refine ⟨by decide +kernel, ?_⟩
  rintro ⟨-, -, hlast, -⟩
  have hmatch : (downlinkMatch host.endian (downlinkFrame ue1)
      (((init boot).step host (setup smfA 1)).step host uplinkOnly).audit.maps).isSome := by
    decide +kernel
  have hverdict : (Frame.n6 machine (downlinkFrame ue1)).verdict host.endian
      (((init boot).step host (setup smfA 1)).step host uplinkOnly).audit.maps =
        .redirect (some (gnb.octets, u32ToBe 1000)) := by
    decide +kernel
  have hsupplied : (((init boot).step host (setup smfA 1)).step host uplinkOnly).supplied.all
      fun p => u32ToBe p.2.teid ≠ u32ToBe 1000 := by
    decide +kernel
  obtain ⟨⟨t, session⟩, hp⟩ := Option.isSome_iff_exists.mp hmatch
  obtain ⟨ohc, hmem, houter⟩ := hlast machine (downlinkFrame ue1) rfl t session _ hp hverdict
  have hteid := (Prod.mk.inj (Option.some.inj houter)).2
  have hne := List.all_eq_true.mp hsupplied _ hmem
  exact of_decide_eq_true hne hteid.symm

end Supply

end UpfEdge
