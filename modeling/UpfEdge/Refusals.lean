import UpfEdge.Mandatory
import UpfEdge.Placement

/-!
# What a refused datagram leaves behind

Most refusals come before anything is written.  An establishment is the exception: its inserts into
the four maps are made one by one, and where one fails the handler returns with the earlier ones
made.  The first of them is the SESSION_MAP row, so a refused datagram leaves no trace exactly when
it does not get as far, or SESSION_MAP has neither a row for its UE nor room for one
(`untraced_iff`).  That the later ones do fail takes no more than an SMF that establishes until
PDR_MAP is full (`not_untraced_fullMap`).
-/

namespace UpfEdge

open Lib Pfcp Server

/-! ### The condition -/

/-- The tables of the server and the four maps are the same; the counters may have advanced. -/
structure Untraced (w w' : World) : Prop where
  sessions : w'.srv.sessions = w.srv.sessions
  associations : w'.srv.associations = w.srv.associations
  urrConfigs : w'.srv.urrConfigs = w.srv.urrConfigs
  sessionMap : w'.maps.sessionMap = w.maps.sessionMap
  pdrMap : w'.maps.pdrMap = w.maps.pdrMap
  farMap : w'.maps.farMap = w.maps.farMap
  urrMap : w'.maps.urrMap = w.maps.urrMap

theorem Untraced.of_eq {w w' : World} (hs : w'.srv.sessions = w.srv.sessions)
    (ha : w'.srv.associations = w.srv.associations) (hc : w'.srv.urrConfigs = w.srv.urrConfigs)
    (hm : w'.maps = w.maps) : Untraced w w' :=
  ⟨hs, ha, hc, by rw [hm], by rw [hm], by rw [hm], by rw [hm]⟩

/-- The datagram is no establishment with an association, a UE address and an outer header whose
row SESSION_MAP takes. -/
def StopsShort (host : Host) (env : Env) (data : Bytes) (src : SocketAddr) (w : World) : Prop :=
  ∀ req assoc ueIp, establishes env (received data) src w = some (req, assoc) →
    req.createPdrs.findSome? (·.ueIp) = some ueIp →
    (req.createFars.findSome? (·.outerHeaderCreation)).isSome → ¬ TakesRow host ueIp w.maps

section Refused

variable {host : Host} {env : Env} {now : Instant} {data body : Bytes} {src : SocketAddr}
  {w : World} {header : PfcpHeader} {err : HandleError}

/-- An establishment that stops short, by whichever of its checks. -/
theorem establishment_untraced (hd : PfcpHeader.decode (received data) = .ok (header, body))
    (ht : header.msgType = pfcpSessionEstablishmentReq) (hstop : StopsShort host env data src w) :
    Untraced w
      (handleSessionEstablishment host.endian env header body src (touched now w)).2 := by
  obtain ⟨err, w', hw', heq⟩ : ∃ err, ∃ w' ∈ [touched now w, allocated (touched now w)],
      handleSessionEstablishment host.endian env header body src (touched now w) =
        (.error err, w') :=
    establishment_stops hd ht fun req assoc ueIp _ => hstop req assoc ueIp
  rw [heq]
  rcases List.mem_pair.mp hw' with rfl | rfl <;> exact .of_eq rfl rfl rfl rfl

/-- The condition is enough. -/
theorem StopsShort.untraced (h : StopsShort host env data src w)
    (herr : (receive host env now data src w).1 = .error err) :
    Untraced w (receive host env now data src w).2 := by
  have htouch : Untraced w (touched now w) := .of_eq rfl rfl rfl rfl
  unfold receive handleMessage at herr ⊢
  cases hd : PfcpHeader.decode (received data) with
  | error err => exact htouch
  | ok p =>
    obtain ⟨header, body⟩ := p
    simp only [hd, dispatch] at herr ⊢
    split_ifs at herr ⊢ with h1 h2 h3 h4 h5 h6 h7
    · cases herr
    · unfold handleSessionAssociation at herr ⊢
      cases hreq : AssociationSetupReq.decode body with
      | error err => exact htouch
      | ok req =>
        simp only [hreq] at herr
        split_ifs at herr
    · exact establishment_untraced hd h3 h
    · cases hmod : modifies env header body src (touched now w) with
      | none =>
        obtain ⟨err', heq⟩ : ∃ err', handleSessionModification host.endian env header body src
            (touched now w) = (.error err', touched now w) := modification_of_none hmod
        rw [heq]
        exact htouch
      | some found =>
        obtain ⟨seid, session, req⟩ := found
        rw [modification_of_some hmod] at herr
        cases herr
    · cases hdel : deletes env (received data) src (touched now w) with
      | none =>
        obtain ⟨err', heq⟩ : ∃ err', handleSessionDeletion host.endian env header src
            (touched now w) = (.error err', touched now w) := deletion_of_none hd h5 hdel
        rw [heq]
        exact htouch
      | some found =>
        obtain ⟨seid, session, assoc⟩ := found
        obtain ⟨⟨r, hr⟩, -⟩ := handleMessage_of_deletes (e := host.endian) hdel
        simp only [handleMessage, hd, dispatch_deletion h5] at hr
        rw [hr] at herr
        cases herr
    · exact htouch

/-- It is needed, where the SEID to be issued is new to SESSION_MAP. -/
theorem Untraced.stopsShort
    (hnew : ∀ k info, w.maps.sessionMap.lookup k = some info → info.seid ≠ w.srv.nextSeid)
    (h : Untraced w (receive host env now data src w).2) : StopsShort host env data src w := by
  intro req assoc ueIp hest hue hgnb hroom
  obtain ⟨info, hrow, hseid⟩ := lookup_receive now hest hue hgnb hroom
  rw [h.sessionMap] at hrow
  exact hnew _ _ hrow hseid

end Refused

/-- **A refused datagram leaves no trace exactly when it stops short of its first insert.**  That
the condition is needed is for runs in which the SEID counter has not come round: a row like the one
inserted could stand there already. -/
theorem untraced_iff (host : Host) (b : Boot) (evs : List Event) (env : Env) (now : Instant)
    (data : Bytes) (src : SocketAddr) (err : HandleError)
    (herr : (receive host env now data src (Audit.after host b evs).world).1 = .error err) :
    (StopsShort host env data src (Audit.after host b evs).world →
        Untraced (Audit.after host b evs).world
          (receive host env now data src (Audit.after host b evs).world).2) ∧
      (Meets (Audit.step host) (Audit.IssuesBelow (2 ^ 64 - 1)) (Audit.init b) evs →
        Untraced (Audit.after host b evs).world
          (receive host env now data src (Audit.after host b evs).world).2 →
        StopsShort host env data src (Audit.after host b evs).world) := by
  refine ⟨fun h => h.untraced herr, fun hm h => h.stopsShort ?_⟩
  exact (Audit.after_issued (n := 2 ^ 64 - 1) (by decide) (by decide) hm).1.sessionRow_ne

/-! ### Establishing until a map is full -/

section Sim

open SmfSim

/-- An establishment without a UE address is refused before it writes anything. -/
theorem untraced_iff_noAddress :
    ∃ err, (receive host env 0 (establishmentWith 1 smfA [] [toGnb 1 0x1111] []) (peer smfA)
        (Audit.after host boot [setup smfA 1]).world).1 = .error err ∧
      Untraced (Audit.after host boot [setup smfA 1]).world
        (receive host env 0 (establishmentWith 1 smfA [] [toGnb 1 0x1111] []) (peer smfA)
          (Audit.after host boot [setup smfA 1]).world).2 := by
  set w := (Audit.after host boot [setup smfA 1]).world
  set data := establishmentWith 1 smfA [] [toGnb 1 0x1111] []
  cases hr : (receive host env 0 data (peer smfA) w).1 with
  | ok r =>
    have hnone : (receive host env 0 data (peer smfA) w).1.toOption.isSome = false := by
      decide +kernel
    rw [hr] at hnone
    cases hnone
  | error err =>
    refine ⟨err, rfl, (untraced_iff host boot [setup smfA 1] env 0 data (peer smfA) err hr).1 ?_⟩
    intro req assoc ueIp hest hue
    have hpdrs : (establishes env (received data) (peer smfA) w).map (·.1.createPdrs) =
        some [] := by decide +kernel
    rw [hest, Option.map_some, Option.some.injEq] at hpdrs
    rw [hpdrs] at hue
    cases hue

/-- An establishment with one PDR and one FAR. -/
def oneRule : Bytes :=
  establishmentWith 1 smfA [anyPacket 1 100 interfaceAccess ue1 1] [toGnb 1 0x1111] []

/-- The simulator establishes the session of UE 1 `k` times over. -/
def again (k : ℕ) : List Event := setup smfA 1 :: List.replicate k (sends smfA oneRule)

/-- What that leaves as long as every establishment is accepted: one SESSION_MAP row, and a PDR_MAP
row for each of them. -/
structure Filled (k : ℕ) (a : Audit) : Prop where
  next : a.srv.nextSeid.toNat = k + 1
  assoc : (a.srv.associations.lookup smfA).map (·.peerAddr) = some (peer smfA)
  keys : ∀ {key info}, a.maps.sessionMap.lookup key = some info →
    key = .ofIp .little ue1 ∧ info.seid.toNat ≤ k
  rows : ∀ i, 1 ≤ i → i ≤ k → (a.maps.pdrMap.lookup (.new (UInt64.ofNat i) 1)).isSome

theorem filled_zero : Filled 0 (Audit.after host boot (again 0)) where
  next := by decide +kernel
  assoc := by decide +kernel
  keys h := by
    have hempty : (Audit.after host boot (again 0)).maps.sessionMap.rows.entries = [] := by
      decide +kernel
    have hmem := Table.lookup_eq_some.mp h
    rw [hempty] at hmem
    cases hmem
  rows i h1 h0 := by omega

/-- The request of `oneRule`. -/
theorem establishmentOf_oneRule : ∃ req, establishmentOf (received oneRule) = some req ∧
    req.createPdrs.findSome? (·.ueIp) = some ue1 ∧
    (req.createFars.findSome? (·.outerHeaderCreation)).isSome ∧
    req.createPdrs.map (·.pdrId) = [1] := by
  obtain ⟨req, hreq⟩ : ∃ req, establishmentOf (received oneRule) = some req :=
    Option.isSome_iff_exists.mp (by decide +kernel)
  have hread : (establishmentOf (received oneRule)).map (fun req =>
      (req.createPdrs.findSome? (·.ueIp), (req.createFars.findSome? (·.outerHeaderCreation)).isSome,
        req.createPdrs.map (·.pdrId))) = some (some ue1, true, [1]) := by decide +kernel
  rw [hreq, Option.map_some, Option.some.injEq, Prod.mk.injEq, Prod.mk.injEq] at hread
  exact ⟨req, hreq, hread⟩

theorem world_step_sends (a : Audit) (smf : Ipv4Addr) (msg : Bytes) :
    (a.step host (sends smf msg)).world = (receive host env 0 msg (peer smf) a.world).2 := rfl

namespace Filled

variable {k : ℕ} {a : Audit}

/-- The next one finds its association. -/
theorem establishes (h : Filled k a) {req : SessionEstablishmentReq}
    (hreq : establishmentOf (received oneRule) = some req) :
    ∃ assoc, UpfEdge.establishes env (received oneRule) (peer smfA) a.world =
      some (req, assoc) := by
  obtain ⟨assoc, hassoc, hpeer⟩ := Option.map_eq_some_iff.mp h.assoc
  obtain ⟨found, hfound⟩ := Option.isSome_iff_exists.mp (findAssociation_isSome env hassoc)
  rw [hpeer] at hfound
  refine ⟨found.2, ?_⟩
  simp only [UpfEdge.establishes, hreq, peer]
  rw [show findAssociation env a.world.srv (.v4 smfA 8805) = some found from hfound]
  rfl

/-- SESSION_MAP has the row of UE 1, or none at all. -/
theorem takesRow (h : Filled k a) : TakesRow host ue1 a.maps := by
  by_cases hrow : (a.maps.sessionMap.rows.lookup (.ofIp host.endian ue1)).isSome
  · exact .inl hrow
  · have hempty : a.maps.sessionMap.rows.keys = [] := by
      refine List.eq_nil_iff_forall_not_mem.mpr fun key hkey => hrow ?_
      have hsome := Table.lookup_isSome.mpr (AList.mem_keys.mpr hkey)
      obtain ⟨info, hinfo⟩ := Option.isSome_iff_exists.mp hsome
      obtain ⟨rfl, -⟩ := h.keys hinfo
      exact hsome
    refine .inr ?_
    rw [hempty]
    decide

/-- An establishment that is refused has written its row. -/
theorem not_untraced (h : Filled k a) :
    ¬ Untraced a.world (receive host env 0 oneRule (peer smfA) a.world).2 := by
  intro huntraced
  obtain ⟨req, hreq, hue, hgnb, -⟩ := establishmentOf_oneRule
  obtain ⟨assoc, hest⟩ := h.establishes hreq
  have hnew : ∀ key info, a.maps.sessionMap.lookup key = some info →
      info.seid ≠ a.srv.nextSeid := by
    intro key info hrow hseid
    have hle := (h.keys hrow).2
    rw [hseid, h.next] at hle
    omega
  exact huntraced.stopsShort hnew req assoc ue1 hest hue hgnb h.takesRow

/-- One that is accepted adds a row. -/
theorem step (h : Filled k a) (hk : k ≤ 4096) {r : Bytes}
    (hok : (receive host env 0 oneRule (peer smfA) a.world).1 = .ok r) :
    Filled (k + 1) (a.step host (sends smfA oneRule)) := by
  obtain ⟨req, hreq, hue, -, hids⟩ := establishmentOf_oneRule
  obtain ⟨assoc, hest⟩ := h.establishes hreq
  obtain ⟨ueIp, gnbInfo, w', hue', -, hinst, hw⟩ := receive_established hest hok
  obtain rfl : ueIp = ue1 := Option.some.inj (hue'.symm.trans hue)
  have hin := installed hinst
  obtain ⟨hsession, hpdr, -⟩ := written hinst
  have hstep := world_step_sends a smfA oneRule
  have hseid : a.srv.nextSeid.toNat = k + 1 := h.next
  refine ⟨?_, ?_, ?_, ?_⟩
  · have hnext : (a.step host (sends smfA oneRule)).srv.nextSeid = a.srv.nextSeid + 1 := by
      rw [Audit.srv, hstep, hw]
      exact hin.nextSeid
    have hlt : a.srv.nextSeid.toNat < 2 ^ 64 - 1 := by omega
    rw [hnext, Audit.next_succ hlt (by decide), hseid]
  · obtain ⟨session, hassoc⟩ : ∃ session : SessionData,
        (a.step host (sends smfA oneRule)).srv.associations =
          a.srv.associations.modify assoc.nodeId fun x =>
            { x with sessions := x.sessions.insert session.cpSeid session } :=
      ⟨_, by rw [Audit.srv, hstep, hw, registerSession, hin.associations]⟩
    rw [hassoc, Table.lookup_modify]
    split_ifs
    · rw [Option.map_map]
      exact h.assoc
    · exact h.assoc
  · intro key info hrow
    rw [Audit.maps, hstep, hw] at hrow
    have hput := (congrFun hsession key).symm.trans hrow
    unfold put at hput
    split_ifs at hput with hkey
    · obtain rfl := Option.some.inj hput
      exact ⟨hkey, hseid.le⟩
    · obtain ⟨hkey', hle⟩ := h.keys hput
      exact ⟨hkey', by omega⟩
  · intro i h1 hi
    rw [Audit.maps, hstep, hw]
    have hlookup := congrFun hpdr (.new (UInt64.ofNat i) 1)
    rw [foldl_put_eq] at hlookup
    refine (congrArg Option.isSome hlookup).trans ?_
    rw [Option.isSome_or, Bool.or_eq_true]
    by_cases hold : i ≤ k
    · exact .inr (h.rows i h1 hold)
    · have hself : UInt64.ofNat i = a.srv.nextSeid := by
        apply UInt64.toNat_inj.mp
        have hlt : i < 4098 := by omega
        rw [UInt64.toNat_ofNat_of_lt' (hlt.trans (by decide)), hseid]
        omega
      have hone : (1 : UInt16) ∈ req.createPdrs.map (·.pdrId) := by
        rw [hids]
        exact List.mem_singleton_self 1
      obtain ⟨pdr, hpdr, hid⟩ := List.mem_map.mp hone
      refine .inl (Option.isSome_iff_ne_none.mpr fun hnone => ?_)
      refine lastPut_eq_none_iff.mp hnone ?_
      rw [hself, List.map_map]
      exact List.mem_map.mpr ⟨pdr, hpdr, by simp [hid]⟩

/-- PDR_MAP has room for 4096 of them. -/
theorem le (h : Filled k a) (hk : k < 2 ^ 48) : k ≤ 4096 := by
  have hnodup : ((List.range k).map fun i => PdrKey.new (UInt64.ofNat (i + 1)) 1).Nodup := by
    refine List.Nodup.map_on (fun i hi j hj heq => ?_) List.nodup_range
    rw [List.mem_range] at hi hj
    have htoNat : ∀ n, n < 2 ^ 48 → (UInt64.ofNat n).toNat = n := fun n hn =>
      UInt64.toNat_ofNat_of_lt' (hn.trans (by decide))
    have hseid := congrArg UInt64.toNat (composeKey_inj_seid
      (by rw [htoNat _ (by omega)]; omega) (by rw [htoNat _ (by omega)]; omega)
      (PdrKey.mk.inj heq))
    rw [htoNat _ (by omega), htoNat _ (by omega)] at hseid
    omega
  have hsub : (List.range k).map (fun i => PdrKey.new (UInt64.ofNat (i + 1)) 1) ⊆
      a.maps.pdrMap.rows.keys := by
    intro key hkey
    obtain ⟨i, hi, rfl⟩ := List.mem_map.mp hkey
    rw [List.mem_range] at hi
    exact AList.mem_keys.mp (Table.lookup_isSome.mp (h.rows (i + 1) (by omega) (by omega)))
  have hlen := (List.subperm_of_subset hnodup hsub).length_le
  rw [List.length_map, List.length_range] at hlen
  exact hlen.trans a.maps.pdrMap.size_le

end Filled

theorem after_again (k : ℕ) : Audit.after host boot (again (k + 1)) =
    (Audit.after host boot (again k)).step host (sends smfA oneRule) := by
  have hagain : again (k + 1) = again k ++ [sends smfA oneRule] := by
    rw [again, List.replicate_succ', again, List.cons_append]
  rw [Audit.after, hagain, run_concat]

/-- One of 4097 establishments finds PDR_MAP full.  It is refused, and its SESSION_MAP row stays. -/
theorem not_untraced_fullMap :
    ∃ k ≤ 4096, ∃ err, (receive host env 0 oneRule (peer smfA)
        (Audit.after host boot (again k)).world).1 = .error err ∧
      ¬ Untraced (Audit.after host boot (again k)).world
        (receive host env 0 oneRule (peer smfA) (Audit.after host boot (again k)).world).2 := by
  by_contra hno
  -- as long as none is refused, every one of them adds a row
  have hfilled : ∀ k ≤ 4097, Filled k (Audit.after host boot (again k)) := by
    intro k
    induction k with
    | zero => exact fun _ => filled_zero
    | succ k ih =>
      intro hk
      have h := ih (by omega)
      rw [after_again]
      cases hr : (receive host env 0 oneRule (peer smfA)
          (Audit.after host boot (again k)).world).1 with
      | ok r => exact h.step (by omega) hr
      | error err => exact absurd ⟨k, by omega, err, hr, h.not_untraced⟩ hno
  have hle := (hfilled 4097 (le_refl _)).le (by decide)
  omega

end Sim

end UpfEdge
