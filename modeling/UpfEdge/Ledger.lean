import UpfEdge.System

/-!
# SEIDs are issued once

`Issued n a`: every SEID that occurs anywhere in the state, in a table, in a SESSION_MAP row or as
the SEID part of a rule key, has been issued (it is below the counter), and the counter has not
passed `n`.  It is kept by every event that issues no SEID from `n` on (`IssuesBelow n`); with `n`
below `2 ^ 64` the counter never wraps, so a SEID that is being issued is new to every table.

`Ledger a` then ties the server to the ledger: an association stands at its own Node ID, a live
session and a URR configuration carry the SEID their SMF chose when it established them, and the one
report destination is that of the last Association Setup.
-/

namespace UpfEdge

open Lib Pfcp Server

/-! ### The inserts of an establishment -/

/-- What the inserts of an establishment leave, from the world the datagram found: `SEID` is the one
the counter stood at. -/
structure Installed (e : Endian) (ueIp : Ipv4Addr) (cpSeid : UInt64) (w w' : World) : Prop where
  kept : Kept w.srv.nextSeid (.ofIp e ueIp) w w'
  nextSeid : w'.srv.nextSeid = w.srv.nextSeid + 1
  sessions : w'.srv.sessions = w.srv.sessions
  associations : w'.srv.associations = w.srv.associations
  peerAddr : w'.srv.peerAddr = w.srv.peerAddr
  config : ∀ {k cfg}, w'.srv.urrConfigs.lookup k = some cfg →
    w.srv.urrConfigs.lookup k = some cfg ∨ k.1 = w.srv.nextSeid ∧ cfg.cpSeid = cpSeid
  sessionMap : ∃ info, info.seid = w.srv.nextSeid ∧
    (w.maps.sessionMap.insert (.ofIp e ueIp) info = some w'.maps.sessionMap ∨
      w.maps.sessionMap.insert (.ofIp e ueIp) info = none ∧
        w'.maps.sessionMap = w.maps.sessionMap)

section Install

variable {e : Endian} {env : Env} {now : Instant} {ueIp : Ipv4Addr} {gnbInfo : OuterHeaderCreation}
  {req : SessionEstablishmentReq} {w w' : World} {ok : Bool}

theorem installed (h : install (installSteps e env w.srv.n3Addr w.srv.nextSeid w.srv.nextTeid ueIp
    gnbInfo req) (allocated (touched now w)) = (ok, w')) : Installed e ueIp req.cpSeid w w' := by
  have hfor : ∀ s ∈ installSteps e env w.srv.n3Addr w.srv.nextSeid w.srv.nextTeid ueIp gnbInfo req,
      s.For w.srv.nextSeid (.ofIp e ueIp) req.cpSeid := fun s hs => installSteps_for hs
  obtain ⟨hsrv, -, -, -⟩ := install_srv (installSteps e env w.srv.n3Addr w.srv.nextSeid
    w.srv.nextTeid ueIp gnbInfo req) (allocated (touched now w))
  have hkept := install_kept (w := allocated (touched now w)) hfor
  have hmap := installSteps_sessionMap e env w.srv.n3Addr w.srv.nextSeid w.srv.nextTeid ueIp gnbInfo
    req (allocated (touched now w))
  simp only [h] at hsrv hkept hmap
  have hstart : Kept w.srv.nextSeid (.ofIp e ueIp) w (allocated (touched now w)) :=
    .of_eq rfl rfl rfl rfl rfl rfl
  refine ⟨hstart.trans hkept, ?_, ?_, ?_, ?_, ?_, ?_⟩
  · rw [hsrv]; rfl
  · rw [hsrv]; rfl
  · rw [hsrv]; rfl
  · rw [hsrv]; rfl
  · intro k cfg hk
    exact install_config (w := allocated (touched now w)) hfor (by rw [h]; exact hk)
  · rcases hmap with ⟨hfull, heq⟩ | hins
    · refine ⟨_, rfl, .inr ⟨hfull, ?_⟩⟩
      rw [(Prod.mk.inj heq).2]
      rfl
    · exact ⟨_, rfl, .inl hins⟩

/-- Inserts that all succeed have written the session row. -/
theorem installed_row (h : install (installSteps e env w.srv.n3Addr w.srv.nextSeid w.srv.nextTeid
    ueIp gnbInfo req) (allocated (touched now w)) = (true, w')) :
    ∃ info, info.seid = w.srv.nextSeid ∧
      w.maps.sessionMap.insert (.ofIp e ueIp) info = some w'.maps.sessionMap := by
  have hmap := installSteps_sessionMap e env w.srv.n3Addr w.srv.nextSeid w.srv.nextTeid ueIp gnbInfo
    req (allocated (touched now w))
  simp only [h] at hmap
  rcases hmap with ⟨-, heq⟩ | hins
  · cases (Prod.mk.inj heq).1
  · exact ⟨_, rfl, hins⟩

theorem registerSession_kept (nodeId : Ipv4Addr) (seid : UInt64) (key : SessionKey)
    (data : SessionData) (w : World) : Kept seid key w (registerSession nodeId seid data w) :=
  { (Kept.refl : Kept seid key w w) with
    session := fun _ hb => (Table.lookup_insert_ite _ _ _ _).trans (if_neg hb) }

theorem Installed.row_seid (h : Installed e ueIp req.cpSeid w w') {k : SessionKey}
    {info : SessionInfo} (hk : w'.maps.sessionMap.lookup k = some info) :
    info.seid = w.srv.nextSeid ∨ w.maps.sessionMap.lookup k = some info := by
  obtain ⟨info', hseid, hins | ⟨-, heq⟩⟩ := h.sessionMap
  · rw [BoundedTable.lookup_of_insert hins] at hk
    split_ifs at hk
    · rw [← Option.some.inj hk]
      exact .inl hseid
    · exact .inr hk
  · rw [heq] at hk
    exact .inr hk

end Install

/-! ### The rules of a deletion -/

theorem removeRules_kept {e : Endian} {env : Env} {now : Instant} {nodeId : Ipv4Addr}
    {seid cpSeid : UInt64} {session : SessionData} {w : World} {tasks : List StoreTask} :
    Kept seid (.ofIp e session.ueIp) w { unregisterSession nodeId seid cpSeid (touched now w) with
      maps := removeRules e env seid session w.maps, tasks := tasks } :=
  ((Deletion.start e seid session).collect env w.maps).remove_kept rfl rfl
    fun _ hb => (Table.lookup_erase_ite _ _ _).trans (if_neg hb)

/-- A deletion removes the SESSION_MAP row of its UE address, whoever wrote it. -/
theorem sessionMap_removeRules (e : Endian) (env : Env) (seid : UInt64) (session : SessionData)
    (m : Maps) (k : SessionKey) : (removeRules e env seid session m).sessionMap.lookup k =
      if k = .ofIp e session.ueIp then none else m.sessionMap.lookup k :=
  BoundedTable.lookup_erase_ite m.sessionMap _ k

/-- A deletion removes the FAR_MAP rows that the listed PDR rows name. -/
theorem farMap_removeRules (e : Endian) (env : Env) (seid : UInt64) (session : SessionData)
    (m : Maps) (k : FarKey) : (removeRules e env seid session m).farMap.lookup k =
      if k ∈ ((Deletion.start e seid session).collect env m).farIds.map (FarKey.new seid) then none
      else m.farMap.lookup k :=
  BoundedTable.lookup_eraseAll _ m.farMap k

/-- A deletion removes the URR_MAP rows that the listed PDR rows name. -/
theorem urrMap_removeRules (e : Endian) (env : Env) (seid : UInt64) (session : SessionData)
    (m : Maps) (k : UrrKey) : (removeRules e env seid session m).urrMap.lookup k =
      if k ∈ ((Deletion.start e seid session).collect env m).urrIds.map (UrrKey.new seid) then none
      else m.urrMap.lookup k :=
  BoundedTable.lookup_eraseAll _ m.urrMap k

/-! ### Session messages -/

/-- What a datagram does to the sessions: nothing, with an error if it was for a session; nothing,
as a node message; something for a SEID it has just been given; or it is accepted for a live session
whose SEID at the SMF the source's association has too, and works for that session. -/
theorem receive_cases (host : Host) (env : Env) (now : Instant) (data : Bytes) (src : SocketAddr)
    (w : World) :
    ((receive host env now data src w).2 = touched now w ∧
        ∀ seid, targetSeid (received data) w = some seid →
          ∃ err, (receive host env now data src w).1 = .error err) ∨
      (targetSeid (received data) w = none ∧
        (heartbeatOf (received data) ≠ none ∨ freshSetup (received data) w ≠ none)) ∨
      (∃ p key, establishes env (received data) src w = some p ∧
        Kept w.srv.nextSeid key w (receive host env now data src w).2) ∨
      ∃ seid session assoc, targetSeid (received data) w = some seid ∧
        w.srv.sessions.lookup seid = some session ∧ findAssociation env w.srv src = some assoc ∧
        (assoc.2.sessions.lookup session.cpSeid).isSome ∧
        Kept seid (.ofIp host.endian session.ueIp) w (receive host env now data src w).2 := by
  have htr := receive_transition host env now data src w
  generalize receive host env now data src w = out at htr ⊢
  obtain ⟨r, w'⟩ := out
  simp only at htr ⊢
  have htouch : ∀ {s : UInt64} {key : SessionKey}, Kept s key w (touched now w) :=
    .of_eq rfl rfl rfl rfl rfl rfl
  cases htr with
  | idle hest hset herr => exact .inl ⟨rfl, herr⟩
  | heartbeat recvTs hhb hest hset hnone => exact .inr (.inl ⟨hnone, .inl (by simp [hhb])⟩)
  | setup req hest hset hnone =>
    have hset' : freshSetup (received data) w = some req := hset
    exact .inr (.inl ⟨hnone, .inr (by simp [hset'])⟩)
  | refused req assoc hest hset hnone =>
    exact .inr (.inr (.inl ⟨_, .ofIp host.endian .unspecified, hest,
      .of_eq rfl rfl rfl rfl rfl rfl⟩))
  | interrupted req assoc ueIp gnbInfo w' hest hset hue hgnb hinst =>
    have hin : Installed host.endian ueIp req.cpSeid w w' := installed hinst
    exact .inr (.inr (.inl ⟨_, _, hest, hin.kept⟩))
  | established req assoc ueIp gnbInfo w' hest hset hue hgnb hinst =>
    have hin : Installed host.endian ueIp req.cpSeid w w' := installed hinst
    exact .inr (.inr (.inl ⟨_, _, hest, hin.kept.trans (registerSession_kept ..)⟩))
  | modified seid session assoc req hest hset htarget hlive hfind hown =>
    exact .inr (.inr (.inr ⟨seid, session, assoc, htarget, hlive, hfind, hown,
      htouch.trans modifySession_kept⟩))
  | deleted seid session assoc hest hset htarget hdel =>
    obtain ⟨-, hlive, hfind, hown⟩ := of_deletes hdel
    exact .inr (.inr (.inr ⟨seid, session, assoc, htarget, hlive, hfind, hown, removeRules_kept⟩))

/-! ### Associations -/

/-- A heartbeat either leaves an association alone or empties it. -/
theorem lookup_heartbeatAssociations (env : Env) (src : SocketAddr) (recvTs : Option UInt32)
    (srv : PfcpServer) (k : Ipv4Addr) :
    (heartbeatAssociations env src recvTs srv).lookup k = srv.associations.lookup k ∨
      ∃ assoc recv, recvTs = some recv ∧ findAssociation env srv src = some ⟨k, assoc⟩ ∧
        srv.associations.lookup k = some assoc ∧ assoc.recoveryTs ≠ recv ∧
        (heartbeatAssociations env src recvTs srv).lookup k =
          some { assoc with sessions := ∅, recoveryTs := recv } := by
  unfold heartbeatAssociations
  cases src with
  | v6 => exact .inl rfl
  | v4 ip port =>
    simp only
    cases hfind : findAssociation env srv (.v4 ip port) with
    | none => exact .inl rfl
    | some found =>
      obtain ⟨k', assoc⟩ := found
      cases recvTs with
      | none => exact .inl rfl
      | some recv =>
        simp only
        split_ifs with hts
        · rw [Table.lookup_insert_ite]
          split_ifs with hk
          · obtain rfl := hk
            exact .inr ⟨assoc, recv, rfl, rfl, (findAssociation_some hfind).1, hts, rfl⟩
          · exact .inl rfl
        · exact .inl rfl

/-- The associations after an accepted establishment. -/
theorem lookup_registerSession (nodeId : Ipv4Addr) (seid : UInt64) (session : SessionData)
    (w : World) (k : Ipv4Addr) :
    (registerSession nodeId seid session w).srv.associations.lookup k =
      (w.srv.associations.lookup k).map fun x => if k = nodeId then
        { x with sessions := x.sessions.insert session.cpSeid session } else x := by
  refine (Table.lookup_modify _ _ _ _).trans ?_
  split_ifs
  · rfl
  · exact Option.map_id'.symm

/-- The associations after an accepted deletion. -/
theorem lookup_unregisterSession (nodeId : Ipv4Addr) (seid cpSeid : UInt64) (w : World)
    (k : Ipv4Addr) :
    (unregisterSession nodeId seid cpSeid w).srv.associations.lookup k =
      (w.srv.associations.lookup k).map fun x => if k = nodeId then
        { x with sessions := x.sessions.erase cpSeid } else x := by
  refine (Table.lookup_modify _ _ _ _).trans ?_
  split_ifs
  · rfl
  · exact Option.map_id'.symm

section Fields

variable {α : Type} {f : SmfAssociation → α} (hf : ∀ x t, f { x with sessions := t } = f x)
include hf

/-- Establishments and deletions change no field of an association but its sessions. -/
theorem map_registerSession (nodeId : Ipv4Addr) (seid : UInt64) (session : SessionData) (w : World)
    (k : Ipv4Addr) :
    ((registerSession nodeId seid session w).srv.associations.lookup k).map f =
      (w.srv.associations.lookup k).map f := by
  rw [lookup_registerSession, Option.map_map]
  congr 1
  funext x
  rw [Function.comp_apply]
  split_ifs
  · exact hf x _
  · rfl

theorem map_unregisterSession (nodeId : Ipv4Addr) (seid cpSeid : UInt64) (w : World)
    (k : Ipv4Addr) :
    ((unregisterSession nodeId seid cpSeid w).srv.associations.lookup k).map f =
      (w.srv.associations.lookup k).map f := by
  rw [lookup_unregisterSession, Option.map_map]
  congr 1
  funext x
  rw [Function.comp_apply]
  split_ifs
  · exact hf x _
  · rfl

end Fields

namespace Audit

/-- The event gets a SEID from the counter. -/
def Issues (a : Audit) : Event → Prop
  | .datagram env _ data src => (establishes env (received data) src a.world).isSome
  | _ => False

instance (a : Audit) : ∀ ev, Decidable (a.Issues ev)
  | .datagram env _ data src =>
    inferInstanceAs (Decidable ((establishes env (received data) src a.world).isSome))
  | .snapshot _ | .report _ | .uplink _ _ | .downlink _ _ => inferInstanceAs (Decidable False)

/-- If the event gets a SEID from the counter, it is below `n`. -/
def IssuesBelow (n : ℕ) (a : Audit) (ev : Event) : Prop := a.Issues ev → a.srv.nextSeid.toNat < n

instance (n : ℕ) (a : Audit) (ev : Event) : Decidable (a.IssuesBelow n ev) :=
  inferInstanceAs (Decidable (_ → _))

/-- An establishment that gets as far as installing its rules: where it came from, the association
found for it, and what it asks for. -/
structure Admission where
  src : SocketAddr
  assoc : SmfAssociation
  cpSeid : UInt64
  ueIp : Ipv4Addr

/-- The establishment of an event that has an association, a UE address and an outer header. -/
def admission (a : Audit) : Event → Option Admission
  | .datagram env _ data src =>
    (establishes env (received data) src a.world).bind fun p =>
      (p.1.createFars.findSome? (·.outerHeaderCreation)).bind fun _ =>
        (p.1.createPdrs.findSome? (·.ueIp)).map fun ueIp => ⟨src, p.2, p.1.cpSeid, ueIp⟩
  | _ => none

structure Issued (n : ℕ) (a : Audit) : Prop where
  next_le : a.srv.nextSeid.toNat ≤ n
  live : ∀ {s data}, a.srv.sessions.lookup s = some data → s.toNat < a.srv.nextSeid.toNat
  origin : ∀ {s o}, a.origin.lookup s = some o → s.toNat < a.srv.nextSeid.toNat
  config : ∀ {s u cfg}, a.srv.urrConfigs.lookup (s, u) = some cfg →
    s.toNat < a.srv.nextSeid.toNat
  sessionRow : ∀ {k info}, a.maps.sessionMap.lookup k = some info →
    info.seid.toNat < a.srv.nextSeid.toNat
  pdrRow : ∀ {k}, (a.maps.pdrMap.lookup k).isSome →
    (seidPart k.key).toNat < a.srv.nextSeid.toNat
  farRow : ∀ {k}, (a.maps.farMap.lookup k).isSome →
    (seidPart k.key).toNat < a.srv.nextSeid.toNat
  urrRow : ∀ {k}, (a.maps.urrMap.lookup k).isSome →
    (seidPart k.key).toNat < a.srv.nextSeid.toNat

structure Ledger (a : Audit) : Prop where
  keyed : ∀ {k assoc}, a.srv.associations.lookup k = some assoc → assoc.nodeId = k
  peer : a.srv.peerAddr = a.lastSetup.map (.v4 · 8805)
  live : ∀ {s data}, a.srv.sessions.lookup s = some data →
    ∃ o, a.origin.lookup s = some o ∧ o.cpSeid = data.cpSeid
  config : ∀ {s u cfg}, a.srv.urrConfigs.lookup (s, u) = some cfg →
    ∃ o, a.origin.lookup s = some o ∧ o.cpSeid = cfg.cpSeid

variable {host : Host} {n : ℕ} {a a' : Audit} {ev : Event}

/-! ### The initial state -/

theorem init_issued (hn : 1 ≤ n) (b : Boot) : Issued n (init b) where
  next_le := hn
  live h := by cases h
  origin h := by cases h
  config h := by cases h
  sessionRow h := by cases h
  pdrRow h := by cases h
  farRow h := by cases h
  urrRow h := by cases h

theorem init_ledger (b : Boot) : Ledger (init b) where
  keyed h := by cases h
  peer := rfl
  live h := by cases h
  config h := by cases h

/-! ### One event -/

theorem seidPart_composeKey_le (seid : UInt64) (id : UInt32) :
    (seidPart (composeKey seid id)).toNat ≤ seid.toNat := by
  rw [seidPart_composeKey]
  exact Nat.mod_le _ _

theorem Issued.of_steady (h : Issued n a) (hw : Steady a.world a'.world)
    (ho : a'.origin = a.origin) : Issued n a' := by
  have hnext : a'.srv.nextSeid = a.srv.nextSeid := hw.nextSeid
  constructor
  · rw [hnext]
    exact h.next_le
  · intro s data hs
    obtain ⟨data', hs', -⟩ := hw.session_some hs
    rw [hnext]
    exact h.live hs'
  · intro s o hs
    rw [hnext]
    exact h.origin (by rw [← ho]; exact hs)
  · intro s u cfg hs
    obtain ⟨cfg', hs', -⟩ := hw.config_some hs
    rw [hnext]
    exact h.config hs'
  · intro k info hk
    obtain ⟨info', hk', hseid, -⟩ := hw.sessionRow_some hk
    rw [hnext, ← hseid]
    exact h.sessionRow hk'
  · intro k hk
    rw [hnext]
    exact h.pdrRow (by rw [← hw.pdrMap]; exact hk)
  · intro k hk
    rw [hnext]
    exact h.farRow (by rw [← hw.farRow]; exact hk)
  · intro k hk
    rw [hnext]
    rcases hw.urrRow k hk with hk | ⟨key, info, id, hrow, rfl⟩
    · exact h.urrRow hk
    · exact Nat.lt_of_le_of_lt (seidPart_composeKey_le _ _) (h.sessionRow hrow)

/-- A step that works for one SEID keeps `Issued` when that SEID is below the counter afterwards. -/
theorem Issued.of_kept (h : Issued n a) {seid : UInt64} {key : SessionKey}
    (hk : Kept seid key a.world a'.world) (hseid : seid.toNat < a'.srv.nextSeid.toNat)
    (hnext : a.srv.nextSeid.toNat ≤ a'.srv.nextSeid.toNat) (hle : a'.srv.nextSeid.toNat ≤ n)
    (hrow : ∀ info, a'.maps.sessionMap.lookup key = some info →
      info.seid.toNat < a'.srv.nextSeid.toNat)
    (ho : ∀ s, s ≠ seid → a'.origin.lookup s = a.origin.lookup s) : Issued n a' := by
  have hnew : ∀ id, (seidPart (composeKey seid id)).toNat < a'.srv.nextSeid.toNat :=
    fun id => Nat.lt_of_le_of_lt (seidPart_composeKey_le _ _) hseid
  constructor
  · exact hle
  · intro s data hs
    by_cases hsn : s = seid
    · rw [hsn]; exact hseid
    · exact Nat.lt_of_lt_of_le (h.live ((hk.session s hsn).symm.trans hs)) hnext
  · intro s o hs
    by_cases hsn : s = seid
    · rw [hsn]; exact hseid
    · exact Nat.lt_of_lt_of_le (h.origin ((ho s hsn).symm.trans hs)) hnext
  · intro s u cfg hs
    by_cases hsn : s = seid
    · rw [hsn]; exact hseid
    · exact Nat.lt_of_lt_of_le (h.config ((hk.config s u hsn).symm.trans hs)) hnext
  · intro k info hi
    by_cases hkk : k = key
    · exact hrow info (by rw [← hkk]; exact hi)
    · exact Nat.lt_of_lt_of_le (h.sessionRow ((hk.sessionRow k hkk).symm.trans hi)) hnext
  · intro k hi
    by_cases hkn : ∃ id, k = PdrKey.new seid id
    · obtain ⟨id, rfl⟩ := hkn
      exact hnew id
    · rw [hk.pdrRow k (not_exists.mp hkn)] at hi
      exact Nat.lt_of_lt_of_le (h.pdrRow hi) hnext
  · intro k hi
    by_cases hkn : ∃ id, k = FarKey.new seid id
    · obtain ⟨id, rfl⟩ := hkn
      exact hnew id
    · rw [hk.farRow k (not_exists.mp hkn)] at hi
      exact Nat.lt_of_lt_of_le (h.farRow hi) hnext
  · intro k hi
    by_cases hkn : ∃ id, k = UrrKey.new seid id
    · obtain ⟨id, rfl⟩ := hkn
      exact hnew id
    · rw [hk.urrRow k (not_exists.mp hkn)] at hi
      exact Nat.lt_of_lt_of_le (h.urrRow hi) hnext

theorem next_succ (hlt : a.srv.nextSeid.toNat < n) (hn : n < 2 ^ 64) :
    (a.srv.nextSeid + 1).toNat = a.srv.nextSeid.toNat + 1 := by
  rw [UInt64.toNat_add, UInt64.toNat_one]
  exact Nat.mod_eq_of_lt (by omega)

theorem Issues.of_establishes {env : Env} {now : Instant} {data : Bytes} {src : SocketAddr}
    {p : SessionEstablishmentReq × SmfAssociation}
    (h : establishes env (received data) src a.world = some p) :
    a.Issues (.datagram env now data src) := by
  change (establishes env (received data) src a.world).isSome
  rw [h]
  rfl

section Admission

variable {env : Env} {now : Instant} {data : Bytes} {src : SocketAddr}
  {req : SessionEstablishmentReq} {assoc : SmfAssociation} {ueIp : Ipv4Addr}
  {gnbInfo : OuterHeaderCreation} {adm : Admission}

theorem admission_of (hest : establishes env (received data) src a.world = some (req, assoc))
    (hue : req.createPdrs.findSome? (·.ueIp) = some ueIp)
    (hgnb : req.createFars.findSome? (·.outerHeaderCreation) = some gnbInfo) :
    a.admission (.datagram env now data src) = some ⟨src, assoc, req.cpSeid, ueIp⟩ := by
  simp only [admission, hest, hgnb, hue, Option.bind_some, Option.map_some]

theorem of_admission (h : a.admission ev = some adm) :
    ∃ env now data src req assoc, ev = .datagram env now data src ∧
      establishes env (received data) src a.world = some (req, assoc) ∧
      req.createPdrs.findSome? (·.ueIp) = some adm.ueIp ∧
      (req.createFars.findSome? (·.outerHeaderCreation)).isSome := by
  cases ev with
  | datagram env now data src =>
    obtain ⟨⟨req, assoc⟩, hest, hp⟩ := Option.bind_eq_some_iff.mp h
    obtain ⟨gnbInfo, hgnb, hp⟩ := Option.bind_eq_some_iff.mp hp
    obtain ⟨ueIp, hue, rfl⟩ := Option.map_eq_some_iff.mp hp
    exact ⟨env, now, data, src, req, assoc, rfl, hest, hue, by rw [hgnb]; rfl⟩
  | snapshot | report | uplink | downlink => cases h

/-- The association of an establishment is one of the table, at the address it came from. -/
theorem establishes_association (hest : establishes env data src a.world = some (req, assoc)) :
    ∃ k, a.srv.associations.lookup k = some assoc ∧ assoc.peerAddr = src := by
  unfold establishes at hest
  split at hest
  · obtain ⟨found, hfind, heq⟩ := Option.map_eq_some_iff.mp hest
    obtain ⟨hlookup, hpeer⟩ := findAssociation_some hfind
    obtain rfl : found.2 = assoc := (Prod.mk.inj heq).2
    exact ⟨found.1, hlookup, hpeer⟩
  · cases hest

end Admission

theorem lookup_issued_ne {src : SocketAddr} {req : SessionEstablishmentReq} {assoc : SmfAssociation}
    {s : UInt64} (hs : s ≠ a.srv.nextSeid) :
    (a.issued src req assoc).lookup s = a.origin.lookup s :=
  (Table.lookup_insert_ite _ _ _ _).trans (if_neg hs)

theorem lookup_issued_self {src : SocketAddr} {req : SessionEstablishmentReq}
    {assoc : SmfAssociation} :
    (a.issued src req assoc).lookup a.srv.nextSeid = some ⟨assoc.nodeId, src, req.cpSeid⟩ :=
  (Table.lookup_insert_ite _ _ _ _).trans (if_pos rfl)

/-- An event that gets a SEID and works for it keeps `Issued`. -/
theorem Issued.of_admission (hn : n < 2 ^ 64) (h : Issued n a) (hlt : a.srv.nextSeid.toNat < n)
    {key : SessionKey} (hk : Kept a.srv.nextSeid key a.world a'.world)
    (hnext : a'.srv.nextSeid = a.srv.nextSeid + 1)
    (hrow : ∀ info, a'.maps.sessionMap.lookup key = some info →
      info.seid = a.srv.nextSeid ∨ a.maps.sessionMap.lookup key = some info)
    {src : SocketAddr} {req : SessionEstablishmentReq} {assoc : SmfAssociation}
    (ho : a'.origin = a.issued src req assoc) : Issued n a' := by
  have hsucc : a'.srv.nextSeid.toNat = a.srv.nextSeid.toNat + 1 := by
    rw [hnext]
    exact next_succ hlt hn
  refine h.of_kept hk (by omega) (by omega) (by omega) (fun info hi => ?_) fun s hs => ?_
  · rcases hrow info hi with heq | hold
    · rw [heq, hsucc]
      exact Nat.lt_succ_self _
    · have := h.sessionRow hold
      omega
  · rw [ho, lookup_issued_ne hs]

/-- **`Issued` is kept** by every event that issues no SEID from `n` on. -/
theorem Issued.step (hn : n < 2 ^ 64) (h : Issued n a) (hb : a.IssuesBelow n ev) :
    Issued n (a.step host ev) := by
  have hmove := a.step_move host ev
  generalize a.step host ev = a' at hmove ⊢
  cases hmove with
  | steady hw ho hl hest => exact h.of_steady hw ho
  | heartbeat recvTs hhb hest hw ho hl | setup req hset hest hw ho hl =>
    have hkeep :
        Issued n { a' with sys := { a'.sys with world := a'.world }, origin := a.origin } := by
      rw [hw]
      exact { h with }
    rw [← ho] at hkeep
    exact hkeep
  | refused req assoc hest hnone hw ho hl =>
    have hk : Kept a.srv.nextSeid (.ofIp host.endian .unspecified) a.world a'.world := by
      rw [hw]
      exact .of_eq rfl rfl rfl rfl rfl rfl
    refine h.of_admission hn (hb (.of_establishes hest)) hk ?_ (fun info hi => .inr ?_) ho
    · rw [Audit.srv, hw]; rfl
    · rw [Audit.maps, hw] at hi
      exact hi
  | interrupted req assoc ueIp gnbInfo hest hue hgnb hinst ho hl =>
    have hi := installed hinst
    exact h.of_admission hn (hb (.of_establishes hest)) hi.kept hi.nextSeid
      (fun info hrow => hi.row_seid hrow) ho
  | established req assoc ueIp gnbInfo w' hest hue hgnb hinst hw ho hl =>
    have hi := installed hinst
    have hk : Kept a.srv.nextSeid (.ofIp host.endian ueIp) a.world a'.world := by
      rw [hw]
      exact hi.kept.trans (registerSession_kept ..)
    refine h.of_admission hn (hb (.of_establishes hest)) hk ?_ (fun info hrow => ?_) ho
    · rw [Audit.srv, hw]
      exact hi.nextSeid
    · rw [Audit.maps, hw] at hrow
      exact hi.row_seid hrow
  | deleted seid session assoc hest hdel hw ho hl =>
    obtain ⟨-, hlive, -, -⟩ := of_deletes hdel
    have hnext : a'.srv.nextSeid = a.srv.nextSeid := by rw [Audit.srv, hw]; rfl
    have hk : Kept seid (.ofIp host.endian session.ueIp) a.world a'.world := by
      rw [hw]
      exact removeRules_kept
    refine h.of_kept hk (by rw [hnext]; exact h.live hlive) (by rw [hnext])
      (by rw [hnext]; exact h.next_le) (fun info hrow => ?_) fun s hs => by rw [ho]
    rw [Audit.maps, hw, sessionMap_removeRules, if_pos rfl] at hrow
    cases hrow

/-- An event writes at most the origin of the SEID at the counter. -/
theorem origin_of_ne (h : Move host a ev a') {s : UInt64} (hs : s ≠ a.srv.nextSeid) :
    a'.origin.lookup s = a.origin.lookup s := by
  cases h with
  | steady hw ho hl hest
  | heartbeat recvTs hhb hest hw ho hl
  | setup req hset hest hw ho hl
  | deleted seid session assoc hest hdel hw ho hl => rw [ho]
  | refused req assoc hest hnone hw ho hl
  | interrupted req assoc ueIp gnbInfo hest hue hgnb hinst ho hl
  | established req assoc ueIp gnbInfo w' hest hue hgnb hinst hw ho hl =>
    rw [ho, lookup_issued_ne hs]

/-- A session after an event was there before it, for the same UE and session of the SMF, or it is
the session of the establishment that has got its SEID from the event. -/
theorem session_of_move (h : Move host a ev a') {s : UInt64} {data : SessionData}
    (hs : a'.srv.sessions.lookup s = some data) :
    (∃ old, a.srv.sessions.lookup s = some old ∧ old.cpSeid = data.cpSeid ∧
        old.ueIp = data.ueIp) ∨
      s = a.srv.nextSeid ∧ (∃ o, a'.origin.lookup s = some o ∧ o.cpSeid = data.cpSeid) ∧
        ∃ adm, a.admission ev = some adm ∧ adm.cpSeid = data.cpSeid ∧ adm.ueIp = data.ueIp := by
  cases h with
  | steady hw ho hl hest =>
    obtain ⟨old, hold, hue, hcp⟩ := hw.session_some hs
    exact .inl ⟨old, hold, hcp, hue⟩
  | heartbeat recvTs hhb hest hw ho hl
  | setup req hset hest hw ho hl
  | refused req assoc hest hnone hw ho hl =>
    rw [Audit.srv, hw] at hs
    exact .inl ⟨data, hs, rfl, rfl⟩
  | interrupted req assoc ueIp gnbInfo hest hue hgnb hinst ho hl =>
    rw [Audit.srv, (installed hinst).sessions] at hs
    exact .inl ⟨data, hs, rfl, rfl⟩
  | established req assoc ueIp gnbInfo w' hest hue hgnb hinst hw ho hl =>
    rw [Audit.srv, hw] at hs
    have hs' := (Table.lookup_insert_ite _ _ _ _).symm.trans hs
    split_ifs at hs' with hsn
    · obtain rfl := Option.some.inj hs'
      rw [ho, hsn, lookup_issued_self]
      exact .inr ⟨rfl, ⟨_, rfl, rfl⟩, _, admission_of hest hue hgnb, rfl, rfl⟩
    · rw [(installed hinst).sessions] at hs'
      exact .inl ⟨data, hs', rfl, rfl⟩
  | deleted seid session assoc hest hdel hw ho hl =>
    rw [Audit.srv, hw] at hs
    have hs' := (Table.lookup_erase_ite _ _ _).symm.trans hs
    split_ifs at hs'
    exact .inl ⟨data, hs', rfl, rfl⟩

/-- A configuration after an event was there before it, for the same session of the SMF, or is of
the SEID that the event has got. -/
theorem config_of_move (h : Move host a ev a') {s : UInt64} {u : UInt32} {cfg : UrrConfig}
    (hs : a'.srv.urrConfigs.lookup (s, u) = some cfg) :
    (∃ old, a.srv.urrConfigs.lookup (s, u) = some old ∧ old.cpSeid = cfg.cpSeid) ∨
      (a.Issues ev ∧ s = a.srv.nextSeid) ∧
        ∃ o, a'.origin.lookup s = some o ∧ o.cpSeid = cfg.cpSeid := by
  cases h with
  | steady hw ho hl hest => exact .inl (hw.config_some hs)
  | heartbeat recvTs hhb hest hw ho hl
  | setup req hset hest hw ho hl
  | refused req assoc hest hnone hw ho hl
  | deleted seid session assoc hest hdel hw ho hl =>
    rw [Audit.srv, hw] at hs
    exact .inl ⟨cfg, hs, rfl⟩
  | interrupted req assoc ueIp gnbInfo hest hue hgnb hinst ho hl =>
    rcases (installed hinst).config hs with hold | ⟨rfl, hcp⟩
    · exact .inl ⟨cfg, hold, rfl⟩
    · rw [ho, lookup_issued_self]
      exact .inr ⟨⟨.of_establishes hest, rfl⟩, _, rfl, hcp.symm⟩
  | established req assoc ueIp gnbInfo w' hest hue hgnb hinst hw ho hl =>
    rw [Audit.srv, hw] at hs
    rcases (installed hinst).config hs with hold | ⟨rfl, hcp⟩
    · exact .inl ⟨cfg, hold, rfl⟩
    · rw [ho, lookup_issued_self]
      exact .inr ⟨⟨.of_establishes hest, rfl⟩, _, rfl, hcp.symm⟩

/-- The associations stay under their Node IDs. -/
theorem keyed_of_move (h : Move host a ev a')
    (hkeyed : ∀ {k assoc}, a.srv.associations.lookup k = some assoc → assoc.nodeId = k)
    {k : Ipv4Addr} {assoc : SmfAssociation} (hk : a'.srv.associations.lookup k = some assoc) :
    assoc.nodeId = k := by
  cases h with
  | steady hw ho hl hest =>
    rw [Audit.srv, hw.associations] at hk
    exact hkeyed hk
  | heartbeat recvTs hhb hest hw ho hl =>
    rw [Audit.srv, hw] at hk
    rcases lookup_heartbeatAssociations _ _ recvTs a.srv k with
      heq | ⟨assoc', recv, -, -, hold, -, hnew⟩
    · exact hkeyed (heq.symm.trans hk)
    · have hnode : assoc'.nodeId = k := hkeyed hold
      rw [← Option.some.inj (hnew.symm.trans hk)]
      exact hnode
  | setup req hset hest hw ho hl =>
    rw [Audit.srv, hw] at hk
    have hk' := (Table.lookup_insert_ite _ _ _ _).symm.trans hk
    split_ifs at hk' with heq
    · obtain rfl := Option.some.inj hk'
      exact heq.symm
    · exact hkeyed hk'
  | refused req assoc hest hnone hw ho hl =>
    rw [Audit.srv, hw] at hk
    exact hkeyed hk
  | interrupted req assoc ueIp gnbInfo hest hue hgnb hinst ho hl =>
    rw [Audit.srv, (installed hinst).associations] at hk
    exact hkeyed hk
  | established req assoc ueIp gnbInfo w' hest hue hgnb hinst hw ho hl =>
    rw [Audit.srv, hw] at hk
    obtain ⟨old, hold, rfl⟩ :=
      Option.map_eq_some_iff.mp ((lookup_registerSession ..).symm.trans hk)
    rw [(installed hinst).associations] at hold
    have hnode := hkeyed hold
    split_ifs <;> exact hnode
  | deleted seid session assoc hest hdel hw ho hl =>
    rw [Audit.srv, hw] at hk
    obtain ⟨old, hold, rfl⟩ :=
      Option.map_eq_some_iff.mp ((lookup_unregisterSession ..).symm.trans hk)
    have hnode := hkeyed hold
    split_ifs <;> exact hnode

/-- The address of reports is that of the last setup, which nothing but a setup changes. -/
theorem peer_of_move (h : Move host a ev a')
    (hpeer : a.srv.peerAddr = a.lastSetup.map (.v4 · 8805)) :
    a'.srv.peerAddr = a'.lastSetup.map (.v4 · 8805) := by
  cases h with
  | steady hw ho hl hest =>
    rw [Audit.srv, hw.peerAddr, hl]
    exact hpeer
  | heartbeat recvTs hhb hest hw ho hl
  | refused req assoc hest hnone hw ho hl
  | deleted seid session assoc hest hdel hw ho hl =>
    rw [Audit.srv, hw, hl]
    exact hpeer
  | setup req hset hest hw ho hl =>
    rw [Audit.srv, hw, hl]
    rfl
  | interrupted req assoc ueIp gnbInfo hest hue hgnb hinst ho hl =>
    rw [Audit.srv, (installed hinst).peerAddr, hl]
    exact hpeer
  | established req assoc ueIp gnbInfo w' hest hue hgnb hinst hw ho hl =>
    rw [Audit.srv, hw, hl]
    exact (installed hinst).peerAddr.trans hpeer

/-- **`Ledger` is kept** by every event of a system whose SEIDs are issued once. -/
theorem Ledger.step (hi : Issued n a) (h : Ledger a) : Ledger (a.step host ev) := by
  have hmove := a.step_move host ev
  generalize a.step host ev = a' at hmove ⊢
  -- a SEID that has been issued is not the one at the counter
  have hold : ∀ {s : UInt64}, s.toNat < a.srv.nextSeid.toNat →
      a'.origin.lookup s = a.origin.lookup s := by
    intro s hlt
    refine origin_of_ne hmove ?_
    rintro rfl
    exact Nat.lt_irrefl _ hlt
  constructor
  · intro k assoc hk
    exact keyed_of_move hmove h.keyed hk
  · exact peer_of_move hmove h.peer
  · intro s data hs
    rcases session_of_move hmove hs with ⟨old, hs', hcp, -⟩ | ⟨-, hnew, -⟩
    · rw [hold (hi.live hs'), ← hcp]
      exact h.live hs'
    · exact hnew
  · intro s u cfg hs
    rcases config_of_move hmove hs with ⟨old, hs', hcp⟩ | ⟨-, hnew⟩
    · rw [hold (hi.config hs'), ← hcp]
      exact h.config hs'
    · exact hnew

/-- Until the SEID counter comes round, the next SEID is new to SESSION_MAP. -/
theorem Issued.sessionRow_ne (h : Issued n a) (k : SessionKey) (info : SessionInfo)
    (hrow : a.maps.sessionMap.lookup k = some info) : info.seid ≠ a.srv.nextSeid := by
  intro hseid
  have hlt := h.sessionRow hrow
  rw [hseid] at hlt
  exact Nat.lt_irrefl _ hlt

/-! ### Runs -/

/-- The two invariants hold after every run that issues no SEID from `n` on. -/
theorem after_issued (h1 : 1 ≤ n) (hn : n < 2 ^ 64) {b : Boot} {evs : List Event}
    (hm : Meets (step host) (IssuesBelow n) (init b) evs) :
    Issued n (after host b evs) ∧ Ledger (after host b evs) :=
  run_inv (P := fun a => Issued n a ∧ Ledger a)
    (fun _ _ h hg => ⟨h.1.step hn hg, h.2.step h.1⟩) ⟨init_issued h1 b, init_ledger b⟩ hm

end Audit

end UpfEdge
