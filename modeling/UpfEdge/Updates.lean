import UpfEdge.Answers
import UpfEdge.Placement

/-!
# What an Update FAR changes

An Update FAR may carry an Apply Action and, among its forwarding parameters, a Destination
Interface and an Outer Header Creation.  The parser reads all three, an absent Apply Action as 0,
and the handler writes the last of them only.  So an accepted modification leaves the rows it names
as its Update FARs ask for exactly when the first two say what the rows say already
(`fieldByField_iff`); a switch to DROP, for one, is accepted and not made.
-/

namespace UpfEdge

open Lib Pfcp Server

namespace Pfcp

/-! ### The content of an Update FAR -/

/-- The value that a reader finds in the last IE it takes. -/
def lastIe {α : Type} (read : RawIE → Option α) (ies : List RawIE) : Option α :=
  (ies.filterMap read).getLast?

/-- A reader of the IEs of one type. -/
def ofType {α : Type} (t : UInt16) (read : Bytes → Option α) (ie : RawIE) : Option α :=
  if ie.ieType = t then read ie.value else none

section LastIe

variable {α : Type} {read : RawIE → Option α}

theorem lastIe_append (ies ies' : List RawIE) :
    lastIe read (ies ++ ies') = (lastIe read ies').or (lastIe read ies) := by
  rw [lastIe, List.filterMap_append, List.getLast?_append]
  rfl

theorem lastIe_cons (ie : RawIE) (ies : List RawIE) :
    lastIe read (ie :: ies) = (lastIe read ies).or (read ie) := by
  have hone : lastIe read [ie] = read ie := by
    cases h : read ie <;> simp [lastIe, h]
  rw [← List.singleton_append, lastIe_append, hone]

end LastIe

/-- What an Update FAR carries. -/
structure FarUpdate where
  farId : UInt32
  applyAction : Option UInt8
  destInterface : Option UInt8
  outerHeaderCreation : Option OuterHeaderCreation

namespace FarUpdate

def readDestInterface : RawIE → Option UInt8 :=
  ofType pfcpIeDestinationInterface fun v => v.head?.map (· &&& 0x0F)

def readOuterHeaderCreation : RawIE → Option OuterHeaderCreation :=
  ofType pfcpIeOuterHeaderCreation fun v => (parseOuterHeaderCreation v).toOption

/-- The IEs inside the grouped IEs of one type. -/
def inside (t : UInt16) (ies : List RawIE) : List RawIE :=
  (ies.filter (·.ieType = t)).flatMap fun ie => iterIes ie.value

/-- The content of an Update FAR, read off its IEs; of several IEs of a type the last counts. -/
def read (value : Bytes) : FarUpdate where
  farId := (lastIe (ofType pfcpIeFarId field32) (iterIes value)).getD 0
  applyAction := lastIe (ofType pfcpIeApplyAction List.head?) (iterIes value)
  destInterface := lastIe readDestInterface
    (inside pfcpIeUpdateForwardingParameters (iterIes value))
  outerHeaderCreation := lastIe readOuterHeaderCreation
    (inside pfcpIeUpdateForwardingParameters (iterIes value))

/-- What the parser makes of it. -/
def parsed (u : FarUpdate) : ParsedFAR where
  farId := u.farId
  applyAction := u.applyAction.getD 0
  destInterface := u.destInterface
  outerHeaderCreation := u.outerHeaderCreation

end FarUpdate

/-- The Update FARs of a Session Modification Request. -/
def farUpdates (body : Bytes) : List FarUpdate :=
  ((iterIes body).filter (·.ieType = pfcpIeUpdateFar)).map fun ie => .read ie.value

/-! ### The parser -/

theorem parseForwardingParamsIe_ok {far far' : ParsedFAR} {ie : RawIE}
    (h : parseForwardingParamsIe far ie = .ok far') :
    far' = { far with
      destInterface := (FarUpdate.readDestInterface ie).or far.destInterface
      outerHeaderCreation :=
        (FarUpdate.readOuterHeaderCreation ie).or far.outerHeaderCreation } := by
  have hne : pfcpIeOuterHeaderCreation ≠ pfcpIeDestinationInterface := by decide
  unfold parseForwardingParamsIe at h
  unfold FarUpdate.readDestInterface FarUpdate.readOuterHeaderCreation ofType
  by_cases hdest : ie.ieType = pfcpIeDestinationInterface
  · rw [if_pos hdest] at h
    obtain rfl := Except.ok.inj h
    cases hhead : ie.value.head? with
    | none => simp [hdest, hne.symm, hhead]
    | some b => simp [hdest, hne.symm, hhead]
  by_cases hohc : ie.ieType = pfcpIeOuterHeaderCreation
  · rw [if_neg hdest, if_pos hohc] at h
    obtain ⟨ohc, hparse, h⟩ := except_bind_ok h
    obtain rfl := Except.ok.inj h
    simp [hohc, hne, hparse, Except.toOption]
  · rw [if_neg hdest, if_neg hohc] at h
    obtain rfl := Except.ok.inj h
    simp [hdest, hohc]

/-- The forwarding parameters after their IEs, from the first to the last. -/
theorem parseForwardingParams_ok {far far' : ParsedFAR} (ies : List RawIE)
    (h : ies.foldlM parseForwardingParamsIe far = .ok far') :
    far' = { far with
      destInterface := (lastIe FarUpdate.readDestInterface ies).or far.destInterface
      outerHeaderCreation :=
        (lastIe FarUpdate.readOuterHeaderCreation ies).or far.outerHeaderCreation } := by
  induction ies generalizing far with
  | nil =>
    obtain rfl : far = far' := Except.ok.inj h
    rfl
  | cons ie ies ih =>
    obtain ⟨far₁, hone, hrest⟩ := except_bind_ok h
    obtain rfl := parseForwardingParamsIe_ok hone
    rw [ih hrest, lastIe_cons, lastIe_cons, Option.or_assoc, Option.or_assoc]

/-- One IE of an Update FAR. -/
theorem parseFarIe_ok {t : UInt16} (ht : t ≠ pfcpIeFarId ∧ t ≠ pfcpIeApplyAction)
    {far far' : ParsedFAR} {ie : RawIE} (h : parseFarIe t far ie = .ok far') :
    far'.farId = (ofType pfcpIeFarId field32 ie).getD far.farId ∧
      far'.applyAction = (ofType pfcpIeApplyAction List.head? ie).getD far.applyAction ∧
      far'.destInterface = (lastIe FarUpdate.readDestInterface (FarUpdate.inside t [ie])).or
        far.destInterface ∧
      far'.outerHeaderCreation = (lastIe FarUpdate.readOuterHeaderCreation
        (FarUpdate.inside t [ie])).or far.outerHeaderCreation := by
  have hne : pfcpIeApplyAction ≠ pfcpIeFarId := by decide
  have hinside : FarUpdate.inside t [ie] = if ie.ieType = t then iterIes ie.value else [] := by
    by_cases hie : ie.ieType = t <;> simp [FarUpdate.inside, hie]
  have hnil : ∀ {α : Type} (read : RawIE → Option α), lastIe read [] = none := fun _ => rfl
  rw [hinside, ofType, ofType]
  unfold parseFarIe at h
  by_cases hid : ie.ieType = pfcpIeFarId
  · rw [if_pos hid] at h
    obtain rfl := Except.ok.inj h
    simp [hid, hne.symm, ht.1.symm, hnil]
  by_cases hact : ie.ieType = pfcpIeApplyAction
  · rw [if_neg hid, if_pos hact] at h
    obtain ⟨action, hparse, h⟩ := except_bind_ok h
    obtain rfl := Except.ok.inj h
    have hhead : ie.value.head? = some action := by
      unfold parseApplyAction at hparse
      split_ifs at hparse with hlen
      rw [← Except.ok.inj hparse, List.head?_eq_getElem?]
      exact List.getElem?_eq_getElem _
    simp [hact, hne, ht.2.symm, hnil, hhead]
  by_cases hfwd : ie.ieType = t
  · rw [if_neg hid, if_neg hact, if_pos hfwd] at h
    obtain rfl := parseForwardingParams_ok _ h
    simp [hfwd, ht.1, ht.2]
  · rw [if_neg hid, if_neg hact, if_neg hfwd] at h
    obtain rfl := Except.ok.inj h
    simp [hid, hact, hfwd, hnil]

/-- All of them. -/
theorem foldlM_parseFarIe_ok {t : UInt16} (ht : t ≠ pfcpIeFarId ∧ t ≠ pfcpIeApplyAction)
    {far far' : ParsedFAR} (ies : List RawIE) (h : ies.foldlM (parseFarIe t) far = .ok far') :
    far'.farId = (lastIe (ofType pfcpIeFarId field32) ies).getD far.farId ∧
      far'.applyAction = (lastIe (ofType pfcpIeApplyAction List.head?) ies).getD far.applyAction ∧
      far'.destInterface = (lastIe FarUpdate.readDestInterface (FarUpdate.inside t ies)).or
        far.destInterface ∧
      far'.outerHeaderCreation = (lastIe FarUpdate.readOuterHeaderCreation
        (FarUpdate.inside t ies)).or far.outerHeaderCreation := by
  induction ies generalizing far with
  | nil =>
    obtain rfl : far = far' := Except.ok.inj h
    exact ⟨rfl, rfl, rfl, rfl⟩
  | cons ie ies ih =>
    obtain ⟨far₁, hone, hrest⟩ := except_bind_ok h
    obtain ⟨hid, hact, hdest, hohc⟩ := parseFarIe_ok ht hone
    obtain ⟨hid', hact', hdest', hohc'⟩ := ih hrest
    have hinside : FarUpdate.inside t (ie :: ies) =
        FarUpdate.inside t [ie] ++ FarUpdate.inside t ies := by
      rw [FarUpdate.inside, ← List.singleton_append, List.filter_append, List.flatMap_append]
      rfl
    rw [hid', hact', hdest', hohc', hid, hact, hdest, hohc, hinside]
    simp only [lastIe_cons, lastIe_append, Option.getD_or, Option.or_assoc, and_self]

/-- **The parser keeps what an Update FAR carries**, but for the difference between an Apply Action
of 0 and none. -/
theorem parseUpdateFar_ok {value : Bytes} {far : ParsedFAR} (h : parseUpdateFar value = .ok far) :
    far = (FarUpdate.read value).parsed := by
  obtain ⟨hid, hact, hdest, hohc⟩ := foldlM_parseFarIe_ok (by decide) _ h
  obtain ⟨farId, applyAction, destInterface, outerHeaderCreation⟩ := far
  simp only [Option.or_none] at hid hact hdest hohc
  rw [hid, hact, hdest, hohc]
  rfl

theorem mapM_ok {ε α β : Type} {f : α → Except ε β} {g : α → β}
    (hf : ∀ a b, f a = .ok b → b = g a) {as : List α} {bs : List β} (h : as.mapM f = .ok bs) :
    bs = as.map g := by
  induction as generalizing bs with
  | nil => exact (Except.ok.inj h).symm
  | cons a as ih =>
    rw [List.mapM_cons] at h
    obtain ⟨b, hb, h⟩ := except_bind_ok h
    obtain ⟨bs', hbs, h⟩ := except_bind_ok h
    rw [← Except.ok.inj h, hf a b hb, ih hbs, List.map_cons]

/-- The Update FARs of a request, as the handler has them. -/
theorem updateFars_eq {body : Bytes} {req : SessionModificationReq}
    (h : SessionModificationReq.decode body = .ok req) :
    req.updateFars = (farUpdates body).map FarUpdate.parsed := by
  obtain ⟨fars, hfars, h⟩ := except_bind_ok h
  obtain ⟨urrs, -, h⟩ := except_bind_ok h
  obtain rfl := Except.ok.inj h
  rw [farUpdates, List.map_map]
  refine mapM_ok (fun ie far hie => ?_) hfars
  cases hparse : parseUpdateFar ie.value with
  | error err =>
    rw [hparse] at hie
    cases hie
  | ok far' =>
    rw [hparse] at hie
    obtain rfl := Except.ok.inj hie
    exact parseUpdateFar_ok hparse

end Pfcp

/-! ### The rows -/

/-- A row with the fields of an update in place of its own, where the update has them. -/
def Pfcp.FarUpdate.apply (e : Endian) (u : FarUpdate) (row : FarValue) : FarValue :=
  { row with
    applyAction := u.applyAction.getD row.applyAction
    dstInterface := u.destInterface.getD row.dstInterface
    gnbIp := (u.outerHeaderCreation.map fun ohc => e.toBe32 ohc.peerAddr.toU32).getD row.gnbIp
    teid := (u.outerHeaderCreation.map fun ohc => e.toBe32 ohc.teid).getD row.teid }

/-- Updates of the FARs of a session take effect field by field, from the maps `m` to the maps
`m'`. -/
structure FieldByField (e : Endian) (seid : UInt64) (us : List FarUpdate) (m m' : Maps) : Prop where
  named : ∀ u ∈ us, m'.farMap.lookup (.new seid u.farId) =
    (m.farMap.lookup (.new seid u.farId)).map (u.apply e)
  others : ∀ k, k ∉ us.map (fun u => FarKey.new seid u.farId) →
    m'.farMap.lookup k = m.farMap.lookup k

/-- The Apply Action and the Destination Interface of an update, where it has them, are those of the
row. -/
def Pfcp.FarUpdate.Repeats (u : FarUpdate) (row : FarValue) : Prop :=
  (∀ action, u.applyAction = some action → action = row.applyAction) ∧
    ∀ interface, u.destInterface = some interface → interface = row.dstInterface

/-- The handler's write of an update, a tunnel or nothing, is the whole update only then. -/
theorem setFar_eq_apply_iff (e : Endian) (u : FarUpdate) (row : FarValue) :
    (u.outerHeaderCreation.map (setFar e · row)).getD row = u.apply e row ↔ u.Repeats row := by
  obtain ⟨farId, action, interface, ohc⟩ := u
  obtain ⟨applyAction, dstInterface, gnbIp, teid, upfN3Ip⟩ := row
  have hsome : ∀ {b : UInt8} (o : Option UInt8), b = o.getD b ↔ ∀ c, o = some c → c = b := by
    intro b o
    cases o with
    | none => simp
    | some c => simp [eq_comm]
  unfold FarUpdate.apply FarUpdate.Repeats
  simp only [← hsome]
  cases ohc with
  | none => simp
  | some ohc => simp [setFar]

/-- FAR_MAP after an accepted modification, where the Update FARs name different FARs. -/
theorem lookup_updated (e : Endian) (seid : UInt64) (ueIp : Ipv4Addr) (w : World)
    {req : SessionModificationReq} {us : List FarUpdate}
    (hfars : req.updateFars = us.map FarUpdate.parsed) :
    (∀ k, k ∉ us.map (fun u => FarKey.new seid u.farId) →
      (modifySession e seid ueIp req w).maps.farMap.lookup k = w.maps.farMap.lookup k) ∧
    ((us.map fun u => FarKey.new seid u.farId).Nodup → ∀ u ∈ us,
      (modifySession e seid ueIp req w).maps.farMap.lookup (.new seid u.farId) =
        (w.maps.farMap.lookup (.new seid u.farId)).map fun row =>
          (u.outerHeaderCreation.map (setFar e · row)).getD row) := by
  have hwrites : farWrites seid req.updateFars = us.filterMap fun u =>
      u.outerHeaderCreation.map fun ohc => (FarKey.new seid u.farId, ohc) := by
    rw [hfars, farWrites, List.filterMap_map]
    rfl
  rw [modifySession_farMap, hwrites]
  constructor
  · intro k hk
    refine foldl_overwrite_of_notMem (fun hmem => hk ?_) _
    obtain ⟨write, hwrite, rfl⟩ := List.mem_map.mp hmem
    obtain ⟨u, hu, hohc⟩ := List.mem_filterMap.mp hwrite
    obtain ⟨ohc, -, rfl⟩ := Option.map_eq_some_iff.mp hohc
    exact List.mem_map_of_mem hu
  · intro hnodup u hu
    exact foldl_overwrite_filterMap hnodup hu _

/-- FAR ids that fit into a key and differ make keys that differ. -/
theorem nodup_farKeys (seid : UInt64) {us : List FarUpdate}
    (hlt : ∀ u ∈ us, u.farId.toNat < 65536) (hnodup : (us.map (·.farId)).Nodup) :
    (us.map fun u => FarKey.new seid u.farId).Nodup := by
  refine List.Nodup.map_on (fun u hu v hv hkey => ?_) (List.Nodup.of_map _ hnodup)
  have hid := composeKey_inj_id (hlt u hu) (hlt v hv) (FarKey.mk.inj hkey)
  exact List.inj_on_of_nodup_map hnodup hu hv hid

/-- **An accepted modification does what its Update FARs ask for exactly when they ask for nothing
but tunnels.** -/
theorem fieldByField_iff (host : Host) (env : Env) (now : Instant) (data : Bytes)
    (src : SocketAddr) (w : World) (header : PfcpHeader) (body : Bytes) (seid : UInt64) (r : Bytes)
    (hd : PfcpHeader.decode (received data) = .ok (header, body))
    (ht : header.msgType = pfcpSessionModificationReq) (hseid : header.seid = some seid)
    (hok : (receive host env now data src w).1 = .ok r)
    (hnamed : ∀ u ∈ farUpdates body, u.farId.toNat < 65536 ∧
      (w.maps.farMap.lookup (.new seid u.farId)).isSome)
    (hnodup : ((farUpdates body).map (·.farId)).Nodup) :
    FieldByField host.endian seid (farUpdates body) w.maps
        (receive host env now data src w).2.maps ↔
      ∀ u ∈ farUpdates body, ∀ row, w.maps.farMap.lookup (.new seid u.farId) = some row →
        u.Repeats row := by
  obtain ⟨seid', session, req, hmod, hrec⟩ := receive_modified hd ht hok
  obtain ⟨hreq, hseid', -, -, -⟩ := modifies_eq_some.mp hmod
  obtain rfl : seid' = seid := Option.some.inj (hseid'.symm.trans hseid)
  have hkeys := nodup_farKeys seid' (fun u hu => (hnamed u hu).1) hnodup
  obtain ⟨hothers, hrows⟩ := lookup_updated host.endian seid' session.ueIp (touched now w)
    (updateFars_eq hreq)
  have hrow' : ∀ u row, w.maps.farMap.lookup (.new seid' u.farId) = some row →
      u ∈ farUpdates body → (modifySession host.endian seid' session.ueIp req
        (touched now w)).maps.farMap.lookup (.new seid' u.farId) =
          some ((u.outerHeaderCreation.map (setFar host.endian · row)).getD row) := by
    intro u row hrow hu
    exact (hrows hkeys u hu).trans (congrArg (Option.map _) hrow)
  rw [hrec]
  constructor
  · intro h u hu row hrow
    have hboth := (hrow' u row hrow hu).symm.trans (h.named u hu)
    rw [hrow] at hboth
    exact (setFar_eq_apply_iff host.endian u row).mp (Option.some.inj hboth)
  · intro h
    refine ⟨fun u hu => ?_, hothers⟩
    obtain ⟨row, hrow⟩ := Option.isSome_iff_exists.mp (hnamed u hu).2
    refine (hrow' u row hrow hu).trans ?_
    rw [hrow, (setFar_eq_apply_iff host.endian u row).mpr (h u hu row hrow)]
    rfl

section Sim

open SmfSim

/-- The `basic_lifecycle` scenario: the Update FAR repeats that its FAR forwards to the access
side. -/
theorem fieldByField_iff_tunnel :
    ∃ header body, PfcpHeader.decode (received (tunnelModification 1 gnb)) = .ok (header, body) ∧
      FieldByField .little 1 (farUpdates body)
        (Audit.after host boot [setup smfA 1, SmfSim.establish smfA 1 ue1]).world.maps
        (receive host env 0 (tunnelModification 1 gnb) (peer smfA)
          (Audit.after host boot [setup smfA 1, SmfSim.establish smfA 1 ue1]).world).2.maps := by
  set w := (Audit.after host boot [setup smfA 1, SmfSim.establish smfA 1 ue1]).world
  obtain ⟨⟨header, body⟩, hd⟩ : ∃ p,
      PfcpHeader.decode (received (tunnelModification 1 gnb)) = .ok p :=
    ok_of_isSome (by decide +kernel)
  have hread : (PfcpHeader.decode (received (tunnelModification 1 gnb))).toOption.map (fun p =>
      ((p.1.msgType, p.1.seid),
        (farUpdates p.2).map fun u => (u.farId, u.applyAction, u.destInterface))) =
      some ((pfcpSessionModificationReq, some 1), [(2, some actionForw, some ifaceAccess)]) := by
    decide +kernel
  rw [hd] at hread
  obtain ⟨⟨ht, hseid⟩, hus⟩ : (header.msgType = pfcpSessionModificationReq ∧
      header.seid = some 1) ∧
      (farUpdates body).map (fun u => (u.farId, u.applyAction, u.destInterface)) =
        [(2, some actionForw, some ifaceAccess)] := by
    simpa [Except.toOption] using hread
  obtain ⟨r, hok⟩ : ∃ r, (receive host env 0 (tunnelModification 1 gnb) (peer smfA) w).1 = .ok r :=
    ok_of_isSome (by decide +kernel)
  obtain ⟨u, hlist, hu⟩ := List.map_eq_singleton_iff.mp hus
  simp only [Prod.mk.injEq] at hu
  obtain ⟨hid, haction, hinterface⟩ := hu
  have hrow : (w.maps.farMap.lookup (.new 1 2)).map (fun row => (row.applyAction,
      row.dstInterface)) = some (actionForw, ifaceAccess) := by decide +kernel
  refine ⟨header, body, hd, (fieldByField_iff host env 0 _ (peer smfA) w header body 1 r hd ht hseid
    hok ?_ ?_).mpr ?_⟩
  · rw [hlist]
    intro v hv
    obtain rfl := List.mem_singleton.mp hv
    rw [hid]
    exact ⟨by decide, by decide +kernel⟩
  · rw [hlist]
    exact List.nodup_singleton _
  · rw [hlist]
    intro v hv row hold
    obtain rfl := List.mem_singleton.mp hv
    rw [hid] at hold
    rw [hold, Option.map_some, Option.some.injEq, Prod.mk.injEq] at hrow
    rw [FarUpdate.Repeats, haction, hinterface, hrow.1, hrow.2]
    simp

/-- An Update FAR that lets the downlink FAR drop. -/
def dropModification (seid : UInt64) : Bytes :=
  let msg := (PfcpHeader.newSessionMsg pfcpSessionModificationReq seid 4).encode
  finish (addUpdateFar msg { toGnb 2 0x80000001 with applyAction := actionDrop })

/-- It is accepted, and the FAR forwards as before. -/
theorem not_fieldByField_drop :
    ∃ header body r, PfcpHeader.decode (received (dropModification 1)) = .ok (header, body) ∧
      (header.msgType = pfcpSessionModificationReq ∧ header.seid = some 1) ∧
      (receive host env 0 (dropModification 1) (peer smfA)
        (Audit.after host boot [setup smfA 1, SmfSim.establish smfA 1 ue1]).world).1 = .ok r ∧
      (farUpdates body).map (·.farId) = [2] ∧
      ((Audit.after host boot [setup smfA 1, SmfSim.establish smfA 1 ue1]).world.maps.farMap.lookup
        (.new 1 2)).isSome ∧
      ¬ FieldByField .little 1 (farUpdates body)
        (Audit.after host boot [setup smfA 1, SmfSim.establish smfA 1 ue1]).world.maps
        (receive host env 0 (dropModification 1) (peer smfA)
          (Audit.after host boot [setup smfA 1, SmfSim.establish smfA 1 ue1]).world).2.maps := by
  set w := (Audit.after host boot [setup smfA 1, SmfSim.establish smfA 1 ue1]).world
  obtain ⟨⟨header, body⟩, hd⟩ : ∃ p, PfcpHeader.decode (received (dropModification 1)) = .ok p :=
    ok_of_isSome (by decide +kernel)
  have hread : (PfcpHeader.decode (received (dropModification 1))).toOption.map (fun p =>
      ((p.1.msgType, p.1.seid), (farUpdates p.2).map fun u => (u.farId, u.applyAction))) =
      some ((pfcpSessionModificationReq, some 1), [(2, some actionDrop)]) := by
    decide +kernel
  rw [hd] at hread
  obtain ⟨hheader, hus⟩ : (header.msgType = pfcpSessionModificationReq ∧ header.seid = some 1) ∧
      (farUpdates body).map (fun u => (u.farId, u.applyAction)) = [(2, some actionDrop)] := by
    simpa [Except.toOption] using hread
  obtain ⟨r, hok⟩ : ∃ r, (receive host env 0 (dropModification 1) (peer smfA) w).1 = .ok r :=
    ok_of_isSome (by decide +kernel)
  obtain ⟨u, hlist, hu⟩ := List.map_eq_singleton_iff.mp hus
  obtain ⟨hid, haction⟩ := Prod.mk.inj hu
  refine ⟨header, body, r, hd, hheader, hok, by rw [hlist, List.map_singleton, hid],
    by decide +kernel, fun h => ?_⟩
  have hnamed : (receive host env 0 (dropModification 1) (peer smfA) w).2.maps.farMap.lookup
      (.new 1 u.farId) = (w.maps.farMap.lookup (.new 1 u.farId)).map (u.apply .little) :=
    h.named u (by rw [hlist]; exact List.mem_singleton_self u)
  have hbefore : ((w.maps.farMap.lookup (.new 1 2)).map (·.applyAction)) = some actionForw := by
    decide +kernel
  have hafter : ((receive host env 0 (dropModification 1) (peer smfA) w).2.maps.farMap.lookup
      (.new 1 2)).map (·.applyAction) = some actionForw := by decide +kernel
  obtain ⟨row, hrow, -⟩ := Option.map_eq_some_iff.mp hbefore
  rw [hid, hrow, Option.map_some] at hnamed
  rw [hnamed, Option.map_some] at hafter
  have hdrop : (u.apply .little row).applyAction = actionDrop := by
    rw [FarUpdate.apply, haction]
    rfl
  have hne : actionDrop ≠ actionForw := by decide
  exact hne (hdrop.symm.trans (Option.some.inj hafter))

end Sim

end UpfEdge
