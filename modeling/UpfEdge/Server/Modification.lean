import UpfEdge.Server.Effects

/-!
# What a modification writes

An accepted modification only overwrites fields of values that are there: of the FAR rows its Update
FARs name, of the session's SESSION_MAP row and its entry in the session table when the FAR is on
the gNB's side, and of the configurations its Update URRs name.  Each table after it is the table
before it with a list of writes made to it, in order (`modifySession_farMap` and its siblings).
-/

namespace UpfEdge.Server

open Lib Pfcp

/-! ### The writes -/

section Writes

variable {e : Endian} {seid : UInt64} {ueIp : Ipv4Addr} {w : World}

def setFar (e : Endian) (ohc : OuterHeaderCreation) (fv : FarValue) : FarValue :=
  { fv with gnbIp := e.toBe32 ohc.peerAddr.toU32, teid := e.toBe32 ohc.teid }

def setRow (e : Endian) (ohc : OuterHeaderCreation) (info : SessionInfo) : SessionInfo :=
  { info with gnbIp := e.toBe32 ohc.peerAddr.toU32, teid := e.toBe32 ohc.teid }

def setSession (ohc : OuterHeaderCreation) (session : SessionData) : SessionData :=
  { session with gnbIp := ohc.peerAddr, teid := ohc.teid }

def setConfig (urr : ParsedURR) (cfg : UrrConfig) : UrrConfig :=
  { cfg with
    measurementMethod := urr.measurementMethod
    reportingTriggers := urr.reportingTriggers
    volumeThresholdTotal := urr.volumeThresholdTotal
    measurementPeriod := urr.measurementPeriod
    thresholdReported := false }

/-- The tunnel an Update FAR names for the gNB's side. -/
def accessTunnel (far : ParsedFAR) : Option OuterHeaderCreation :=
  if far.destInterface = some ifaceAccess then far.outerHeaderCreation else none

/-- The writes of a modification to FAR_MAP. -/
def farWrites (seid : UInt64) (fars : List ParsedFAR) : List (FarKey × OuterHeaderCreation) :=
  fars.filterMap fun far => far.outerHeaderCreation.map fun ohc => (.new seid far.farId, ohc)

/-- Its writes to the one row or session it works on. -/
def accessWrites {K : Type} (key : K) (fars : List ParsedFAR) : List (K × OuterHeaderCreation) :=
  fars.filterMap fun far => (accessTunnel far).map fun ohc => (key, ohc)

def configWrites (seid : UInt64) (urrs : List ParsedURR) : List ((UInt64 × UInt32) × ParsedURR) :=
  urrs.map fun urr => ((seid, urr.urrId), urr)

/-- They all have the one key. -/
theorem accessWrites_eq {K : Type} (key : K) (fars : List ParsedFAR) :
    accessWrites key fars = (fars.filterMap accessTunnel).map fun ohc => (key, ohc) := by
  rw [accessWrites, List.map_filterMap]

theorem setFar_setFar (e : Endian) (o o' : OuterHeaderCreation) (fv : FarValue) :
    setFar e o (setFar e o' fv) = setFar e o fv := rfl

theorem setRow_setRow (e : Endian) (o o' : OuterHeaderCreation) (info : SessionInfo) :
    setRow e o (setRow e o' info) = setRow e o info := rfl

theorem setSession_setSession (o o' : OuterHeaderCreation) (session : SessionData) :
    setSession o (setSession o' session) = setSession o session := rfl

theorem setConfig_setConfig (u u' : ParsedURR) (cfg : UrrConfig) :
    setConfig u (setConfig u' cfg) = setConfig u cfg := rfl

/-- A table that the Update FARs write to and the Update URRs leave alone. -/
theorem modifySession_fars {K V : Type} [DecidableEq K] {T : World → K → Option V}
    {set : OuterHeaderCreation → V → V} {write : ParsedFAR → Option (K × OuterHeaderCreation)}
    (hfar : ∀ far w, T (updateFar e seid (.ofIp e ueIp) far w) =
      match write far with
      | some u => overwrite set (T w) u
      | none => T w)
    (hurr : ∀ urr w, T (updateUrr seid urr w) = T w) (req : SessionModificationReq) :
    T (modifySession e seid ueIp req w) =
      (req.updateFars.filterMap write).foldl (overwrite set) (T w) := by
  have hurrs : ∀ (urrs : List ParsedURR) (w : World),
      T (urrs.foldl (fun w urr => updateUrr seid urr w) w) = T w := by
    intro urrs
    induction urrs with
    | nil => exact fun _ => rfl
    | cons urr urrs ih => exact fun w => (ih _).trans (hurr urr w)
  rw [List.foldl_filterMap]
  refine (hurrs _ _).trans (List.foldl_hom T fun w far => ?_).symm
  rw [hfar far w]
  cases write far <;> rfl

theorem modifySession_farMap (req : SessionModificationReq) :
    (modifySession e seid ueIp req w).maps.farMap.lookup =
      (farWrites seid req.updateFars).foldl (overwrite (setFar e)) w.maps.farMap.lookup := by
  refine modifySession_fars (T := fun w => w.maps.farMap.lookup) (fun far w => ?_)
    (fun _ _ => rfl) req
  unfold updateFar
  cases far.outerHeaderCreation with
  | none => rfl
  | some ohc =>
    simp only [Option.map_some]
    split_ifs <;> exact BoundedTable.lookup_modify_eq (setFar e) _ _ _

theorem modifySession_sessionMap (req : SessionModificationReq) :
    (modifySession e seid ueIp req w).maps.sessionMap.lookup =
      (accessWrites (.ofIp e ueIp) req.updateFars).foldl (overwrite (setRow e))
        w.maps.sessionMap.lookup := by
  refine modifySession_fars (T := fun w => w.maps.sessionMap.lookup) (fun far w => ?_)
    (fun _ _ => rfl) req
  unfold updateFar accessTunnel
  cases far.outerHeaderCreation with
  | none => simp
  | some ohc =>
    simp only
    split_ifs
    · exact BoundedTable.lookup_modify_eq (setRow e) _ _ _
    · rfl

theorem modifySession_sessions (req : SessionModificationReq) :
    (modifySession e seid ueIp req w).srv.sessions.lookup =
      (accessWrites seid req.updateFars).foldl (overwrite setSession) w.srv.sessions.lookup := by
  refine modifySession_fars (T := fun w => w.srv.sessions.lookup) (fun far w => ?_)
    (fun _ _ => rfl) req
  unfold updateFar accessTunnel
  cases far.outerHeaderCreation with
  | none => simp
  | some ohc =>
    simp only
    split_ifs
    · exact Table.lookup_modify_eq setSession _ _ _
    · rfl

theorem updateFar_urrConfigs (far : ParsedFAR) (w : World) :
    (updateFar e seid (.ofIp e ueIp) far w).srv.urrConfigs = w.srv.urrConfigs := by
  unfold updateFar
  cases far.outerHeaderCreation with
  | none => rfl
  | some ohc =>
    simp only
    split_ifs <;> rfl

theorem modifySession_urrConfigs (req : SessionModificationReq) :
    (modifySession e seid ueIp req w).srv.urrConfigs.lookup =
      (configWrites seid req.updateUrrs).foldl (overwrite setConfig) w.srv.urrConfigs.lookup := by
  have hfars : ∀ (fars : List ParsedFAR) (w : World),
      (fars.foldl (fun w far => updateFar e seid (.ofIp e ueIp) far w) w).srv.urrConfigs =
        w.srv.urrConfigs := by
    intro fars
    induction fars with
    | nil => exact fun _ => rfl
    | cons far fars ih => exact fun w => (ih _).trans (updateFar_urrConfigs far w)
  rw [configWrites, List.foldl_map, ← hfars req.updateFars w]
  refine (List.foldl_hom (fun w : World => w.srv.urrConfigs.lookup) fun w urr => ?_).symm
  exact (Table.lookup_modify_eq setConfig _ _ _).symm

/-- What a modification leaves alone. -/
theorem modifySession_rest (req : SessionModificationReq) :
    (modifySession e seid ueIp req w).srv = { w.srv with
        sessions := (modifySession e seid ueIp req w).srv.sessions
        urrConfigs := (modifySession e seid ueIp req w).srv.urrConfigs } ∧
      (modifySession e seid ueIp req w).maps = { w.maps with
        farMap := (modifySession e seid ueIp req w).maps.farMap
        sessionMap := (modifySession e seid ueIp req w).maps.sessionMap } := by
  refine modifySession_inv (P := fun w' =>
    w'.srv = { w.srv with sessions := w'.srv.sessions, urrConfigs := w'.srv.urrConfigs } ∧
      w'.maps = { w.maps with farMap := w'.maps.farMap, sessionMap := w'.maps.sessionMap })
    (fun far w' h => ?_) (fun urr w' h => ?_) ⟨rfl, rfl⟩
  · obtain ⟨hsrv, hmaps⟩ := h
    unfold updateFar
    cases far.outerHeaderCreation with
    | none => exact ⟨hsrv, hmaps⟩
    | some ohc =>
      simp only
      split_ifs
      · exact ⟨by rw [hsrv], by rw [hmaps]⟩
      · exact ⟨hsrv, by rw [hmaps]⟩
  · obtain ⟨hsrv, hmaps⟩ := h
    refine ⟨?_, hmaps⟩
    unfold updateUrr
    rw [hsrv]

end Writes

/-! ### When a modification is accepted -/

section Accepted

variable {e : Endian} {env : Env} {header : PfcpHeader} {body : Bytes} {src : SocketAddr}
  {w : World}

/-- The modification a message is accepted for: the live session it names, and its request. -/
def modifies (env : Env) (header : PfcpHeader) (body : Bytes) (src : SocketAddr) (w : World) :
    Option (UInt64 × SessionData × SessionModificationReq) :=
  match SessionModificationReq.decode body, header.seid, src with
  | .ok req, some seid, .v4 .. =>
    (w.srv.sessions.lookup seid).bind fun session =>
      ((findAssociation env w.srv src).filter fun x =>
        (x.2.sessions.lookup session.cpSeid).isSome).map fun _ => (seid, session, req)
  | _, _, _ => none

theorem modification_of_none (h : modifies env header body src w = none) :
    ∃ err, handleSessionModification e env header body src w = (.error err, w) := by
  unfold handleSessionModification
  cases hreq : SessionModificationReq.decode body with
  | error err => exact ⟨_, rfl⟩
  | ok req =>
    cases hseid : header.seid with
    | none => exact ⟨_, rfl⟩
    | some seid =>
      cases hlive : w.srv.sessions.lookup seid with
      | none =>
        simp only [hlive]
        exact ⟨_, rfl⟩
      | some session =>
        simp only [hlive]
        cases src with
        | v6 => exact ⟨_, rfl⟩
        | v4 ip port =>
          cases hfind : findAssociation env w.srv (.v4 ip port) with
          | none =>
            simp only [hfind]
            exact ⟨_, rfl⟩
          | some assoc =>
            have hown : ¬ (assoc.2.sessions.lookup session.cpSeid).isSome := by
              intro hown
              simp [modifies, hreq, hseid, hlive, hfind, Option.filter, hown] at h
            simp only [hfind, if_neg hown]
            exact ⟨_, rfl⟩

theorem modifies_eq_some {seid : UInt64} {session : SessionData} {req : SessionModificationReq} :
    modifies env header body src w = some (seid, session, req) ↔
      SessionModificationReq.decode body = .ok req ∧ header.seid = some seid ∧
        (∃ ip port, src = .v4 ip port) ∧ w.srv.sessions.lookup seid = some session ∧
        ∃ assoc, findAssociation env w.srv src = some assoc ∧
          (assoc.2.sessions.lookup session.cpSeid).isSome := by
  constructor
  · intro h
    unfold modifies at h
    split at h
    · next req' seid' ip port hreq hseid =>
      obtain ⟨session', hlive, h⟩ := Option.bind_eq_some_iff.mp h
      obtain ⟨assoc, hfind, heq⟩ := Option.map_eq_some_iff.mp h
      simp only [Prod.mk.injEq] at heq
      obtain ⟨rfl, rfl, rfl⟩ := heq
      obtain ⟨hfind, hown⟩ := Option.filter_eq_some_iff.mp hfind
      exact ⟨hreq, hseid, ⟨ip, port, rfl⟩, hlive, assoc, hfind, hown⟩
    · cases h
  · rintro ⟨hreq, hseid, ⟨ip, port, rfl⟩, hlive, assoc, hfind, hown⟩
    simp [modifies, hreq, hseid, hlive, hfind, Option.filter, hown]

theorem modification_of_some {seid : UInt64} {session : SessionData} {req : SessionModificationReq}
    (h : modifies env header body src w = some (seid, session, req)) :
    handleSessionModification e env header body src w =
      (.ok (buildSessionModificationResponse header.seqNum session.cpSeid),
        modifySession e seid session.ueIp req w) := by
  obtain ⟨hreq, hseid, ⟨ip, port, rfl⟩, hlive, assoc, hfind, hown⟩ := modifies_eq_some.mp h
  simp only [handleSessionModification, hreq, hseid, hlive, hfind, hown, if_true]

end Accepted

end UpfEdge.Server
