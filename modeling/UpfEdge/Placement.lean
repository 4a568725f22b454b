import UpfEdge.Atomicity
import UpfEdge.Filter
import UpfEdge.Server.Installation

/-!
# Where the data plane finds what an establishment wrote

The control plane makes the key of a session row from the number of an address, converted to network
order; the programs load the bytes of an address raw.  Either way the key stands for the four octets
(`load32_eq_key_iff`), so after an accepted establishment the programs find its row for the frames
of its UE and for no others, on either byte order.

Rule keys hold 16 bits of an id.  The parser admits 32 bits of a FAR or URR id, so an id survives
the way into its key only if no other of the request shares its lower half, and comes back from a
URR key only if it fits (`keysSurvive_iff`).
-/

namespace UpfEdge

open Lib Pfcp Server Xdp

/-! ### Accepted establishments -/

/-- What an accepted establishment has done. -/
theorem receive_established {host : Host} {env : Env} {now : Instant} {data : Bytes}
    {src : SocketAddr} {w : World} {req : SessionEstablishmentReq} {assoc : SmfAssociation}
    {r : Bytes} (hest : establishes env (received data) src w = some (req, assoc))
    (hok : (receive host env now data src w).1 = .ok r) :
    ∃ ueIp gnbInfo w', req.createPdrs.findSome? (·.ueIp) = some ueIp ∧
      req.createFars.findSome? (·.outerHeaderCreation) = some gnbInfo ∧
      install (installSteps host.endian env w.srv.n3Addr w.srv.nextSeid w.srv.nextTeid ueIp gnbInfo
        req) (allocated (touched now w)) = (true, w') ∧
      (receive host env now data src w).2 = registerSession assoc.nodeId w.srv.nextSeid
        { ueIp, teid := w.srv.nextTeid, gnbIp := gnbInfo.peerAddr, cpSeid := req.cpSeid } w' := by
  rcases establishment_outcomes host now hest with ⟨-, err, hrec⟩ |
    ⟨ueIp, gnbInfo, hue, hgnb, made, w', hinst, ⟨-, err, hrec⟩ | ⟨rfl, rsp, hrec⟩⟩
  · rw [hrec] at hok
    cases hok
  · rw [hrec] at hok
    cases hok
  · rw [hrec]
    exact ⟨ueIp, gnbInfo, w', hue, hgnb, hinst, rfl⟩

theorem ok_of_isSome {ε α : Type} {x : Except ε α} (h : x.toOption.isSome) : ∃ r, x = .ok r := by
  obtain ⟨r, hr⟩ := Option.isSome_iff_exists.mp h
  exact ⟨r, ok_of_toOption hr⟩

/-! ### Keys of addresses -/

/-- A raw load of four bytes is the key of an address exactly when they are its octets. -/
theorem load32_eq_key_iff (e : Endian) {bs : Bytes} (h : bs.length = 4) (ip : Ipv4Addr) :
    (⟨e.load32 bs⟩ : SessionKey) = .ofIp e ip ↔ bs = ip.octets := by
  have hkey : SessionKey.ofIp e ip = ⟨e.load32 ip.octets⟩ := by
    rw [SessionKey.ofIp, Ipv4Addr.toU32, toBe32_ofBe e rfl]
  rw [hkey, SessionKey.mk.injEq]
  exact ⟨fun heq => load32_inj e h rfl heq, fun heq => by rw [heq]⟩

/-- The octets of the address by which a program looks up the session of a frame. -/
def innerSource (p : UplinkPacket) (f : Bytes) : Bytes := (f.drop (p.outerTotal + 12)).take 4
def destination (f : Bytes) : Bytes := (f.drop (ethHdrLen + 16)).take 4

section Keys

variable {e : Endian} {f : Bytes} (ip : Ipv4Addr)

theorem uplink_key_iff {p : UplinkPacket} (h : parseUplink e f = some p) :
    (⟨p.tuple.srcIp⟩ : SessionKey) = .ofIp e ip ↔ innerSource p f = ip.octets := by
  obtain ⟨-, hsrc, -, -⟩ := parseUplink_reads h
  obtain ⟨bs, hbs, heq⟩ := Option.map_eq_some_iff.mp hsrc
  obtain ⟨hlen, rfl⟩ := ptrAt_eq_some hbs
  rw [← heq]
  exact load32_eq_key_iff e (length_slice hlen) ip

theorem downlink_key_iff {t : FiveTuple} (h : parseDownlink e f = some t) :
    (⟨t.dstIp⟩ : SessionKey) = .ofIp e ip ↔ destination f = ip.octets := by
  obtain ⟨hlen, rfl⟩ := parseDownlink_loads h
  rw [List.length_drop] at hlen
  have hslice : ((f.drop ethHdrLen).drop 16).take 4 = destination f := by
    rw [List.drop_drop, destination]
  rw [loadedTuple, hslice]
  exact load32_eq_key_iff e (length_slice (by omega)) ip

end Keys

/-! ### What the establishment wrote -/

section Written

variable {e : Endian} {env : Env} {now : Instant} {ueIp : Ipv4Addr} {gnbInfo : OuterHeaderCreation}
  {req : SessionEstablishmentReq} {w w' : World}

/-- The tables after the inserts of an establishment that all succeeded. -/
theorem written (h : install (installSteps e env w.srv.n3Addr w.srv.nextSeid w.srv.nextTeid ueIp
    gnbInfo req) (allocated (touched now w)) = (true, w')) :
    w'.maps.sessionMap.lookup = put w.maps.sessionMap.lookup (.ofIp e ueIp,
        sessionInfo e w.srv.n3Addr w.srv.nextSeid w.srv.nextTeid gnbInfo req.createPdrs) ∧
      w'.maps.pdrMap.lookup = (req.createPdrs.map fun pdr =>
        (PdrKey.new w.srv.nextSeid pdr.pdrId.toUInt32, pdrValue e ueIp pdr)).foldl put
          w.maps.pdrMap.lookup ∧
      w'.maps.farMap.lookup = (req.createFars.map fun far =>
        (FarKey.new w.srv.nextSeid far.farId, farValue e w.srv.n3Addr far)).foldl put
          w.maps.farMap.lookup ∧
      w'.maps.urrMap.lookup = (req.createUrrs.zipIdx.map fun p =>
        (UrrKey.new w.srv.nextSeid p.1.urrId, fun _ => {})).foldl put w.maps.urrMap.lookup ∧
      w'.srv.urrConfigs.lookup = (req.createUrrs.zipIdx.map fun p => ((w.srv.nextSeid, p.1.urrId),
        urrConfig w.srv.nextSeid req.cpSeid (env.now p.2) p.1)).foldl put
          w.srv.urrConfigs.lookup := by
  obtain ⟨_, -, hall, hsession⟩ := install_table (T := fun w => w.maps.sessionMap.lookup)
    InstallStep.apply_sessionMap h
  rw [hall rfl, installSteps_session] at hsession
  obtain ⟨_, -, hall, hpdr⟩ := install_table (T := fun w => w.maps.pdrMap.lookup)
    InstallStep.apply_pdrMap h
  rw [hall rfl, installSteps_pdr] at hpdr
  obtain ⟨_, -, hall, hfar⟩ := install_table (T := fun w => w.maps.farMap.lookup)
    InstallStep.apply_farMap h
  rw [hall rfl, installSteps_far] at hfar
  obtain ⟨_, -, hall, hurr⟩ := install_table (T := fun w => w.maps.urrMap.lookup)
    InstallStep.apply_urrMap h
  rw [hall rfl, installSteps_urr] at hurr
  obtain ⟨_, -, hall, hconfig⟩ := install_table (T := fun w => w.srv.urrConfigs.lookup)
    InstallStep.apply_urrConfigs h
  rw [hall rfl, installSteps_config] at hconfig
  exact ⟨hsession, hpdr, hfar, hurr, hconfig⟩

end Written

/-! ### Rows and rules -/

theorem store32_toBe32_toU32 (e : Endian) (ip : Ipv4Addr) :
    e.store32 (e.toBe32 ip.toU32) = ip.octets := by
  rw [Ipv4Addr.toU32, toBe32_ofBe e rfl, store32_load32 e rfl]

theorem store32_toBe32 (e : Endian) (x : UInt32) : e.store32 (e.toBe32 x) = u32ToBe x :=
  store32_load32 e rfl

/-- The filter of a PDR; a field that is 0 is not compared. -/
def filterOf (pdr : ParsedPDR) : SdfFilter :=
  pdr.sdfFilter.getD
    { proto := 0, srcIp := .unspecified, dstIp := .unspecified, srcPort := 0, dstPort := 0 }

/-- A row has the precedence, the side, the FAR, the URR and the filter of a PDR, the addresses in
network order. -/
structure RowOfPdr (e : Endian) (pdr : ParsedPDR) (row : PdrValue) : Prop where
  precedence : row.precedence = pdr.precedence
  sourceInterface : row.sourceInterface = pdr.sourceInterface
  farId : row.farId = pdr.farId.getD 0
  urrId : row.urrId = pdr.urrId.getD 0
  sdfProto : row.sdfProto = (filterOf pdr).proto
  sdfSrcIp : e.store32 row.sdfSrcIp = (filterOf pdr).srcIp.octets
  sdfDstIp : e.store32 row.sdfDstIp = (filterOf pdr).dstIp.octets
  sdfSrcPort : row.sdfSrcPort = (filterOf pdr).srcPort
  sdfDstPort : row.sdfDstPort = (filterOf pdr).dstPort

theorem rowOfPdr (e : Endian) (ueIp : Ipv4Addr) (pdr : ParsedPDR) :
    RowOfPdr e pdr (pdrValue e ueIp pdr) := by
  have hzero : e.store32 0 = Ipv4Addr.unspecified.octets := by cases e <;> rfl
  cases hf : pdr.sdfFilter with
  | none => constructor <;> simp [pdrValue, filterOf, hf, hzero]
  | some f => constructor <;> simp [pdrValue, filterOf, hf, store32_toBe32_toU32]

/-- A row has the action, the destination and the tunnel of a FAR, and the address of the UPF on
N3; addresses and TEID in network order. -/
structure RowOfFar (e : Endian) (n3Addr : Ipv4Addr) (far : ParsedFAR) (row : FarValue) : Prop where
  applyAction : row.applyAction = far.applyAction
  dstInterface : row.dstInterface = far.destInterface.getD 0
  gnbIp : e.store32 row.gnbIp =
    ((far.outerHeaderCreation.map OuterHeaderCreation.peerAddr).getD .unspecified).octets
  teid : e.store32 row.teid = u32ToBe ((far.outerHeaderCreation.map (·.teid)).getD 0)
  upfN3Ip : e.store32 row.upfN3Ip = n3Addr.octets

theorem rowOfFar (e : Endian) (n3Addr : Ipv4Addr) (far : ParsedFAR) :
    RowOfFar e n3Addr far (farValue e n3Addr far) := by
  have hzero : e.store32 0 = [0, 0, 0, 0] := by cases e <;> rfl
  refine ⟨rfl, rfl, ?_, ?_, store32_toBe32_toU32 e n3Addr⟩
  · cases hohc : far.outerHeaderCreation with
    | none =>
      simp only [farValue, hohc, Option.map_none, Option.getD_none, hzero]
      rfl
    | some ohc => simp [farValue, hohc, store32_toBe32_toU32]
  · cases hohc : far.outerHeaderCreation with
    | none =>
      simp only [farValue, hohc, Option.map_none, Option.getD_none, hzero]
      rfl
    | some ohc => simp [farValue, hohc, store32_toBe32]

/-! ### What the programs find -/

/-- What the programs find in the maps after an establishment for `ueIp`, from a world `w`. -/
structure Found (e : Endian) (w : World) (m : Maps) (ueIp : Ipv4Addr)
    (req : SessionEstablishmentReq) (info : SessionInfo) : Prop where
  seid : info.seid = w.srv.nextSeid
  listed : info.listed = (req.createPdrs.take maxPdrPerSession).map fun pdr => pdr.pdrId.toUInt32
  uplink : ∀ f p, parseUplink e f = some p → m.sessionMap.lookup ⟨p.tuple.srcIp⟩ =
    if innerSource p f = ueIp.octets then some info else w.maps.sessionMap.lookup ⟨p.tuple.srcIp⟩
  downlink : ∀ f t, parseDownlink e f = some t → m.sessionMap.lookup ⟨t.dstIp⟩ =
    if destination f = ueIp.octets then some info else w.maps.sessionMap.lookup ⟨t.dstIp⟩
  pdr : (req.createPdrs.map (·.pdrId)).Nodup → ∀ pdr ∈ req.createPdrs,
    m.pdrMap.lookup (.new info.seid pdr.pdrId.toUInt32) = some (pdrValue e ueIp pdr)
  far : (req.createFars.map (·.farId)).Nodup → (∀ far ∈ req.createFars, far.farId.toNat < 65536) →
    ∀ far ∈ req.createFars,
      m.farMap.lookup (.new info.seid far.farId) = some (farValue e w.srv.n3Addr far)

/-- Where no row carried the SEID before, the new row is found under no other key. -/
theorem Found.row_iff {e : Endian} {w : World} {m : Maps} {ueIp : Ipv4Addr}
    {req : SessionEstablishmentReq} {info : SessionInfo} (h : Found e w m ueIp req info)
    (hnew : ∀ k i, w.maps.sessionMap.lookup k = some i → i.seid ≠ w.srv.nextSeid) {k : SessionKey}
    {c : Prop} [Decidable c]
    (hrow : m.sessionMap.lookup k = if c then some info else w.maps.sessionMap.lookup k) :
    m.sessionMap.lookup k = some info ↔ c := by
  rw [hrow]
  split_ifs with hc
  · exact iff_of_true rfl hc
  · exact iff_of_false (fun hold => hnew _ _ hold h.seid) hc

/-- Ids that differ make keys that differ, as long as they fit. -/
theorem composeKey_inj_id {seid : UInt64} {i j : UInt32} (hi : i.toNat < 65536)
    (hj : j.toNat < 65536) (h : composeKey seid i = composeKey seid j) : i = j := by
  have hsame := (composeKey_eq_iff seid i j).mp h
  rw [SameId, Nat.mod_eq_of_lt hi, Nat.mod_eq_of_lt hj] at hsame
  exact UInt32.toNat_inj.mp hsame

/-- Of PDRs with different ids, each has its own row. -/
theorem lookup_pdrRows {e : Endian} {ueIp : Ipv4Addr} {seid : UInt64} {pdrs : List ParsedPDR}
    (hnd : (pdrs.map (·.pdrId)).Nodup) {pdr : ParsedPDR} (hmem : pdr ∈ pdrs)
    (t : PdrKey → Option PdrValue) :
    (pdrs.map fun pdr => (PdrKey.new seid pdr.pdrId.toUInt32, pdrValue e ueIp pdr)).foldl put t
      (.new seid pdr.pdrId.toUInt32) = some (pdrValue e ueIp pdr) := by
  refine foldl_put_map _ _ hmem (fun pdr' hmem' hkey => ?_) _
  have hid : pdr'.pdrId.toUInt32 = pdr.pdrId.toUInt32 :=
    composeKey_inj_id pdr'.pdrId.toNat_lt pdr.pdrId.toNat_lt (PdrKey.mk.inj hkey)
  rw [List.inj_on_of_nodup_map hnd hmem' hmem (UInt16.toUInt32_inj.mp hid)]

/-- **The data plane finds the session the control plane wrote**, whatever the state before and on
either byte order. -/
theorem establishment_found (host : Host) (env : Env) (now : Instant) (data : Bytes)
    (src : SocketAddr) (w : World) (req : SessionEstablishmentReq) (assoc : SmfAssociation)
    (ueIp : Ipv4Addr) (r : Bytes)
    (hest : establishes env (received data) src w = some (req, assoc))
    (hue : req.createPdrs.findSome? (·.ueIp) = some ueIp)
    (hok : (receive host env now data src w).1 = .ok r) :
    ∃ info, Found host.endian w (receive host env now data src w).2.maps ueIp req info ∧
      ((∀ k i, w.maps.sessionMap.lookup k = some i → i.seid ≠ w.srv.nextSeid) →
        (∀ f p, parseUplink host.endian f = some p →
          ((receive host env now data src w).2.maps.sessionMap.lookup ⟨p.tuple.srcIp⟩ = some info ↔
            innerSource p f = ueIp.octets)) ∧
        ∀ f t, parseDownlink host.endian f = some t →
          ((receive host env now data src w).2.maps.sessionMap.lookup ⟨t.dstIp⟩ = some info ↔
            destination f = ueIp.octets)) := by
  obtain ⟨ueIp', gnbInfo, w', hue', -, hinst, hw⟩ := receive_established hest hok
  obtain rfl : ueIp' = ueIp := Option.some.inj (hue'.symm.trans hue)
  obtain ⟨hsession, hpdr, hfar, -, -⟩ := written hinst
  have hmaps : (receive host env now data src w).2.maps = w'.maps := by rw [hw]; rfl
  rw [hmaps]
  have hfound : Found host.endian w w'.maps ueIp' req
      (sessionInfo host.endian w.srv.n3Addr w.srv.nextSeid w.srv.nextTeid gnbInfo
        req.createPdrs) := by
    refine ⟨rfl, listed_sessionInfo .., fun f p hp => ?_, fun f t ht => ?_, fun hnd pdr hmem => ?_,
      fun hnd hlt far hmem => ?_⟩
    · rw [hsession]
      exact if_congr (uplink_key_iff ueIp' hp) rfl rfl
    · rw [hsession]
      exact if_congr (downlink_key_iff ueIp' ht) rfl rfl
    · rw [hpdr]
      exact lookup_pdrRows hnd hmem _
    · rw [hfar]
      refine foldl_put_map _ _ hmem (fun far' hmem' hkey => ?_) _
      have hid := composeKey_inj_id (hlt far' hmem') (hlt far hmem) (FarKey.mk.inj hkey)
      rw [List.inj_on_of_nodup_map hnd hmem' hmem hid]
  exact ⟨_, hfound, fun hnew => ⟨fun f p hp => hfound.row_iff hnew (hfound.uplink f p hp),
    fun f t ht => hfound.row_iff hnew (hfound.downlink f t ht)⟩⟩

section Sim

open SmfSim

/-- The first session of a simulator is found for a segment to its UE. -/
theorem establishment_found_first :
    ∃ t info, parseDownlink .little (downlinkFrame ue1) = some t ∧
      (receive host env 0 (sessionEstablishment 1 smfA ue1 gnb 0x80000001) (peer smfA)
        (Audit.after host boot [setup smfA 1]).world).2.maps.sessionMap.lookup ⟨t.dstIp⟩ =
          some info ∧ info.seid = 1 ∧ info.listed = [1, 2, 3] := by
  set w := (Audit.after host boot [setup smfA 1]).world
  set data := sessionEstablishment 1 smfA ue1 gnb 0x80000001
  obtain ⟨⟨req, assoc⟩, hest⟩ : ∃ p, establishes env (received data) (peer smfA) w = some p :=
    Option.isSome_iff_exists.mp (by decide +kernel)
  have hreq : (establishes env (received data) (peer smfA) w).map
      (fun p => (p.1.createPdrs.findSome? (·.ueIp),
        (p.1.createPdrs.take 8).map fun pdr => pdr.pdrId.toUInt32)) =
      some (some ue1, [1, 2, 3]) := by decide +kernel
  rw [hest, Option.map_some, Option.some.injEq, Prod.mk.injEq] at hreq
  obtain ⟨r, hok⟩ : ∃ r, (receive host env 0 data (peer smfA) w).1 = .ok r :=
    ok_of_isSome (by decide +kernel)
  obtain ⟨t, ht⟩ : ∃ t, parseDownlink .little (downlinkFrame ue1) = some t :=
    Option.isSome_iff_exists.mp (by decide +kernel)
  obtain ⟨info, hfound, -⟩ :=
    establishment_found host env 0 data (peer smfA) w req assoc ue1 r hest hreq.1 hok
  have hnext : w.srv.nextSeid = 1 := by decide +kernel
  refine ⟨t, info, ht, ?_, hfound.seid.trans hnext, hfound.listed.trans hreq.2⟩
  exact (hfound.downlink _ t ht).trans (if_pos (by decide))

end Sim

/-! ### Ids and keys -/

/-- The ids of a request survive the composition of keys, in the state that an establishment from
`w` leaves: different FARs and URRs have different keys, the row of a FAR is of its id, and a URR is
found again from its key, both in URR_MAP and among the configurations. -/
structure KeysSurvive (e : Endian) (w w' : World) (req : SessionEstablishmentReq) : Prop where
  fars : ∀ f ∈ req.createFars, ∀ g ∈ req.createFars, f.farId ≠ g.farId →
    FarKey.new w.srv.nextSeid f.farId ≠ FarKey.new w.srv.nextSeid g.farId
  urrs : ∀ u ∈ req.createUrrs, ∀ v ∈ req.createUrrs, u.urrId ≠ v.urrId →
    UrrKey.new w.srv.nextSeid u.urrId ≠ UrrKey.new w.srv.nextSeid v.urrId
  farRow : ∀ f ∈ req.createFars, ∃ g ∈ req.createFars, g.farId = f.farId ∧
    ∃ row, w'.maps.farMap.lookup (.new w.srv.nextSeid f.farId) = some row ∧
      RowOfFar e w.srv.n3Addr g row
  recovered : ∀ u ∈ req.createUrrs,
    recoveredUrr (.new w.srv.nextSeid u.urrId) = (w.srv.nextSeid, u.urrId)
  considered : ∀ u ∈ req.createUrrs,
    (w'.maps.urrMap.lookup (.new w.srv.nextSeid u.urrId)).isSome ∧
      (w'.srv.urrConfigs.lookup (recoveredUrr (.new w.srv.nextSeid u.urrId))).map
        (fun cfg => (cfg.seid, cfg.urrId)) = some (w.srv.nextSeid, u.urrId)

/-- **Ids and keys.**  For an accepted establishment with a SEID below `2 ^ 48`, ids survive exactly
when the FAR ids of the request differ in their lower halves where they differ at all, and its URR
ids have no upper half. -/
theorem keysSurvive_iff (host : Host) (env : Env) (now : Instant) (data : Bytes)
    (src : SocketAddr) (w : World) (req : SessionEstablishmentReq) (assoc : SmfAssociation)
    (r : Bytes) (hest : establishes env (received data) src w = some (req, assoc))
    (hok : (receive host env now data src w).1 = .ok r) (hseid : w.srv.nextSeid.toNat < 2 ^ 48) :
    KeysSurvive host.endian w (receive host env now data src w).2 req ↔
      (∀ f ∈ req.createFars, ∀ g ∈ req.createFars, SameId f.farId g.farId → f.farId = g.farId) ∧
        ∀ u ∈ req.createUrrs, u.urrId.toNat < 65536 := by
  obtain ⟨ueIp, gnbInfo, w', -, -, hinst, hw⟩ := receive_established hest hok
  obtain ⟨-, -, hfar, hurr, hconfig⟩ := written hinst
  have hmaps : (receive host env now data src w).2.maps = w'.maps := by rw [hw]; rfl
  have hconfigs : (receive host env now data src w).2.srv.urrConfigs = w'.srv.urrConfigs := by
    rw [hw]
    rfl
  constructor
  · intro h
    refine ⟨fun f hf g hg hsame => ?_, fun u hu => ?_⟩
    · by_contra hne
      exact h.fars f hf g hg hne (congrArg FarKey.mk ((composeKey_eq_iff _ _ _).mpr hsame))
    · have hid : idPart (composeKey w.srv.nextSeid u.urrId) = u.urrId :=
        (Prod.mk.inj (h.recovered u hu)).2
      rw [← hid, idPart_composeKey]
      exact Nat.mod_lt _ (by decide)
  · rintro ⟨hfars, hurrs⟩
    have hrecovered : ∀ u ∈ req.createUrrs,
        recoveredUrr (.new w.srv.nextSeid u.urrId) = (w.srv.nextSeid, u.urrId) := fun u hu =>
      Prod.ext (seidPart_composeKey_of_lt hseid _) (idPart_composeKey_of_lt _ (hurrs u hu))
    refine ⟨fun f hf g hg hne heq => hne ?_, fun u hu v hv hne heq => hne ?_, fun f hf => ?_,
      hrecovered, fun u hu => ⟨?_, ?_⟩⟩
    · exact hfars f hf g hg ((composeKey_eq_iff _ _ _).mp (FarKey.mk.inj heq))
    · exact composeKey_inj_id (hurrs u hu) (hurrs v hv) (UrrKey.mk.inj heq)
    · obtain ⟨g, hg, hkey, heq⟩ := foldl_put_map_of_mem
        (fun far : ParsedFAR => FarKey.new w.srv.nextSeid far.farId)
        (farValue host.endian w.srv.n3Addr) hf w.maps.farMap.lookup
      refine ⟨g, hg, hfars g hg f hf ((composeKey_eq_iff _ _ _).mp (FarKey.mk.inj hkey)), _, ?_,
        rowOfFar host.endian w.srv.n3Addr g⟩
      rw [hmaps, hfar]
      exact heq
    · obtain ⟨i, hi⟩ := List.getElem?_of_mem hu
      obtain ⟨p, -, -, heq⟩ := foldl_put_map_of_mem
        (fun p : ParsedURR × ℕ => UrrKey.new w.srv.nextSeid p.1.urrId)
        (fun _ _ => ({} : UrrStats)) (List.mk_mem_zipIdx_iff_getElem?.mpr hi) w.maps.urrMap.lookup
      rw [hmaps, hurr]
      exact Option.isSome_of_eq_some heq
    · obtain ⟨i, hi⟩ := List.getElem?_of_mem hu
      obtain ⟨p, -, hkey, heq⟩ := foldl_put_map_of_mem
        (fun p : ParsedURR × ℕ => (w.srv.nextSeid, p.1.urrId))
        (fun p => urrConfig w.srv.nextSeid req.cpSeid (env.now p.2) p.1)
        (List.mk_mem_zipIdx_iff_getElem?.mpr hi) w.srv.urrConfigs.lookup
      rw [hrecovered u hu, hconfigs, hconfig]
      exact (congrArg _ heq).trans (congrArg some hkey)

section Sim

open SmfSim

/-- The ids of the simulator are small. -/
theorem keysSurvive_iff_first :
    ∃ req assoc, establishes env (received (sessionEstablishment 1 smfA ue1 gnb 0x80000001))
        (peer smfA) (Audit.after host boot [setup smfA 1]).world = some (req, assoc) ∧
      KeysSurvive .little (Audit.after host boot [setup smfA 1]).world
        (receive host env 0 (sessionEstablishment 1 smfA ue1 gnb 0x80000001) (peer smfA)
          (Audit.after host boot [setup smfA 1]).world).2 req := by
  set w := (Audit.after host boot [setup smfA 1]).world
  set data := sessionEstablishment 1 smfA ue1 gnb 0x80000001
  obtain ⟨⟨req, assoc⟩, hest⟩ : ∃ p, establishes env (received data) (peer smfA) w = some p :=
    Option.isSome_iff_exists.mp (by decide +kernel)
  obtain ⟨r, hok⟩ : ∃ r, (receive host env 0 data (peer smfA) w).1 = .ok r :=
    ok_of_isSome (by decide +kernel)
  have hids : (establishes env (received data) (peer smfA) w).map (fun p => decide
      ((∀ f ∈ p.1.createFars, ∀ g ∈ p.1.createFars, SameId f.farId g.farId → f.farId = g.farId) ∧
        ∀ u ∈ p.1.createUrrs, u.urrId.toNat < 65536)) = some true := by decide +kernel
  rw [hest, Option.map_some, Option.some.injEq, decide_eq_true_eq] at hids
  exact ⟨req, assoc, hest, (keysSurvive_iff host env 0 data (peer smfA) w req assoc r hest hok
    (by decide +kernel)).mpr hids⟩

/-- An establishment with FARs 1 and 65537. -/
def sharedHalf : Bytes :=
  establishmentWith 1 smfA [anyPacket 1 100 interfaceAccess ue1 1]
    [toGnb 1 0x1111, toGnb 65537 0x2222] []

/-- The two FARs have one key. -/
theorem not_keysSurvive_sharedHalf :
    ∃ req assoc, establishes env (received sharedHalf) (peer smfA)
        (Audit.after host boot [setup smfA 1]).world = some (req, assoc) ∧
      (∃ r, (receive host env 0 sharedHalf (peer smfA)
        (Audit.after host boot [setup smfA 1]).world).1 = .ok r) ∧
      (Audit.after host boot [setup smfA 1]).srv.nextSeid.toNat < 2 ^ 48 ∧
      ¬ KeysSurvive .little (Audit.after host boot [setup smfA 1]).world
        (receive host env 0 sharedHalf (peer smfA)
          (Audit.after host boot [setup smfA 1]).world).2 req := by
  set w := (Audit.after host boot [setup smfA 1]).world
  obtain ⟨⟨req, assoc⟩, hest⟩ : ∃ p, establishes env (received sharedHalf) (peer smfA) w = some p :=
    Option.isSome_iff_exists.mp (by decide +kernel)
  have hids : (establishes env (received sharedHalf) (peer smfA) w).map
      (fun p => p.1.createFars.map (·.farId)) = some [1, 65537] := by decide +kernel
  rw [hest, Option.map_some, Option.some.injEq] at hids
  obtain ⟨f, hf, hf1⟩ : ∃ f ∈ req.createFars, f.farId = 1 :=
    List.mem_map.mp (by rw [hids]; decide)
  obtain ⟨g, hg, hg2⟩ : ∃ g ∈ req.createFars, g.farId = 65537 :=
    List.mem_map.mp (by rw [hids]; decide)
  refine ⟨req, assoc, hest, ok_of_isSome (by decide +kernel), by decide +kernel, fun h => ?_⟩
  refine h.fars f hf g hg ?_ ?_
  · rw [hf1, hg2]
    decide
  · rw [hf1, hg2]
    exact congrArg FarKey.mk ((composeKey_eq_iff _ _ _).mpr (by decide))

end Sim

end UpfEdge
