import UpfEdge.Server.Handlers

/-!
# What the handlers leave alone

Two frames, and which step of the control plane is framed by which.

`Kept seid key w w'`: whatever belongs neither to the local SEID `seid` nor to the SESSION_MAP key
`key` is as it was.  Establishment, modification and deletion are each framed by it, with their own
SEID and the key of their UE address.

`Steady w w'`: no session came or went.  Values may have been edited, but every session, row and
configuration is still there under the same identity, and the associations and the SEID counter are
untouched.  A modification and a section of the reporter are steady.
-/

namespace UpfEdge.Server

open Lib Pfcp

/-- The frame of a handler that works for one session. -/
structure Kept (seid : UInt64) (key : SessionKey) (w w' : World) : Prop where
  sessionRow : ∀ k, k ≠ key → w'.maps.sessionMap.lookup k = w.maps.sessionMap.lookup k
  pdrRow : ∀ k, (∀ id, k ≠ PdrKey.new seid id) → w'.maps.pdrMap.lookup k = w.maps.pdrMap.lookup k
  farRow : ∀ k, (∀ id, k ≠ FarKey.new seid id) → w'.maps.farMap.lookup k = w.maps.farMap.lookup k
  urrRow : ∀ k, (∀ id, k ≠ UrrKey.new seid id) → w'.maps.urrMap.lookup k = w.maps.urrMap.lookup k
  config : ∀ b id, b ≠ seid → w'.srv.urrConfigs.lookup (b, id) = w.srv.urrConfigs.lookup (b, id)
  session : ∀ b, b ≠ seid → w'.srv.sessions.lookup b = w.srv.sessions.lookup b

namespace Kept

variable {seid : UInt64} {key : SessionKey} {w w' w'' : World}

theorem refl : Kept seid key w w :=
  ⟨fun _ _ => rfl, fun _ _ => rfl, fun _ _ => rfl, fun _ _ => rfl, fun _ _ _ => rfl, fun _ _ => rfl⟩

theorem trans (h : Kept seid key w w') (h' : Kept seid key w' w'') : Kept seid key w w'' where
  sessionRow k hk := (h'.sessionRow k hk).trans (h.sessionRow k hk)
  pdrRow k hk := (h'.pdrRow k hk).trans (h.pdrRow k hk)
  farRow k hk := (h'.farRow k hk).trans (h.farRow k hk)
  urrRow k hk := (h'.urrRow k hk).trans (h.urrRow k hk)
  config b id hb := (h'.config b id hb).trans (h.config b id hb)
  session b hb := (h'.session b hb).trans (h.session b hb)

/-- Two worlds that agree on the six tables frame each other. -/
theorem of_eq (h₁ : w'.maps.sessionMap = w.maps.sessionMap) (h₂ : w'.maps.pdrMap = w.maps.pdrMap)
    (h₃ : w'.maps.farMap = w.maps.farMap) (h₄ : w'.maps.urrMap = w.maps.urrMap)
    (h₅ : w'.srv.urrConfigs = w.srv.urrConfigs) (h₆ : w'.srv.sessions = w.srv.sessions) :
    Kept seid key w w' := by
  refine ⟨?_, ?_, ?_, ?_, ?_, ?_⟩ <;> intros
  · rw [h₁]
  · rw [h₂]
  · rw [h₃]
  · rw [h₄]
  · rw [h₅]
  · rw [h₆]

end Kept

/-- The rules of the SEID `b`, its rows in the three rule maps and its URR configurations, are
the same. -/
structure SameRules (b : UInt64) (w w' : World) : Prop where
  pdr : ∀ id, w'.maps.pdrMap.lookup (.new b id) = w.maps.pdrMap.lookup (.new b id)
  far : ∀ id, w'.maps.farMap.lookup (.new b id) = w.maps.farMap.lookup (.new b id)
  urr : ∀ id, w'.maps.urrMap.lookup (.new b id) = w.maps.urrMap.lookup (.new b id)
  config : ∀ id, w'.srv.urrConfigs.lookup (b, id) = w.srv.urrConfigs.lookup (b, id)

theorem SameRules.refl {b : UInt64} {w : World} : SameRules b w w :=
  ⟨fun _ => rfl, fun _ => rfl, fun _ => rfl, fun _ => rfl⟩

/-- Working for one SEID keeps the rules of another, as long as the keys hold both whole. -/
theorem Kept.sameRules {seid b : UInt64} {key : SessionKey} {w w' : World}
    (h : Kept seid key w w') (hseid : seid.toNat < 2 ^ 48) (hb : b.toNat < 2 ^ 48)
    (hne : b ≠ seid) : SameRules b w w' := by
  have hkey : ∀ id id', composeKey b id ≠ composeKey seid id' :=
    fun _ _ heq => hne (composeKey_inj_seid hb hseid heq)
  exact
    { pdr := fun id => h.pdrRow _ fun id' heq => hkey id id' (PdrKey.mk.inj heq)
      far := fun id => h.farRow _ fun id' heq => hkey id id' (FarKey.mk.inj heq)
      urr := fun id => h.urrRow _ fun id' heq => hkey id id' (UrrKey.mk.inj heq)
      config := fun id => h.config b id hne }

/-- What a session keeps for its lifetime. -/
def SessionData.identity (data : SessionData) : Ipv4Addr × UInt64 := (data.ueIp, data.cpSeid)

/-- What a SESSION_MAP row keeps until it is overwritten or removed. -/
def rowIdentity (info : SessionInfo) : UInt64 × List UInt32 := (info.seid, info.listed)

/-- The frame of a step that neither makes nor removes a session.  A URR row may appear, for the
SEID of a SESSION_MAP row. -/
structure Steady (w w' : World) : Prop where
  associations : w'.srv.associations = w.srv.associations
  nextSeid : w'.srv.nextSeid = w.srv.nextSeid
  peerAddr : w'.srv.peerAddr = w.srv.peerAddr
  session : ∀ s, (w'.srv.sessions.lookup s).map SessionData.identity =
    (w.srv.sessions.lookup s).map SessionData.identity
  sessionRow : ∀ k, (w'.maps.sessionMap.lookup k).map rowIdentity =
    (w.maps.sessionMap.lookup k).map rowIdentity
  pdrMap : w'.maps.pdrMap = w.maps.pdrMap
  farRow : ∀ k, (w'.maps.farMap.lookup k).isSome = (w.maps.farMap.lookup k).isSome
  urrRow : ∀ k, (w'.maps.urrMap.lookup k).isSome → (w.maps.urrMap.lookup k).isSome ∨
    ∃ key info id, w.maps.sessionMap.lookup key = some info ∧ k = UrrKey.new info.seid id
  config : ∀ k, (w'.srv.urrConfigs.lookup k).map (·.cpSeid) =
    (w.srv.urrConfigs.lookup k).map (·.cpSeid)

namespace Steady

variable {w w' w'' : World}

theorem refl : Steady w w :=
  ⟨rfl, rfl, rfl, fun _ => rfl, fun _ => rfl, rfl, fun _ => rfl, fun _ => .inl, fun _ => rfl⟩

theorem session_some (h : Steady w w') {s : UInt64} {data' : SessionData}
    (hs : w'.srv.sessions.lookup s = some data') :
    ∃ data, w.srv.sessions.lookup s = some data ∧ data.ueIp = data'.ueIp ∧
      data.cpSeid = data'.cpSeid := by
  have heq := h.session s
  rw [hs, Option.map_some] at heq
  obtain ⟨data, hdata, hid⟩ := Option.map_eq_some_iff.mp heq.symm
  exact ⟨data, hdata, Prod.mk.inj hid⟩

theorem sessionRow_some (h : Steady w w') {k : SessionKey} {info' : SessionInfo}
    (hk : w'.maps.sessionMap.lookup k = some info') :
    ∃ info, w.maps.sessionMap.lookup k = some info ∧ info.seid = info'.seid ∧
      info.listed = info'.listed := by
  have heq := h.sessionRow k
  rw [hk, Option.map_some] at heq
  obtain ⟨info, hinfo, hid⟩ := Option.map_eq_some_iff.mp heq.symm
  exact ⟨info, hinfo, Prod.mk.inj hid⟩

/-- The row of a key stays, for the same SEID. -/
theorem sessionRow_kept (h : Steady w w') {k : SessionKey} {info : SessionInfo}
    (hk : w.maps.sessionMap.lookup k = some info) :
    ∃ info', w'.maps.sessionMap.lookup k = some info' ∧ info'.seid = info.seid := by
  have heq := h.sessionRow k
  rw [hk, Option.map_some] at heq
  obtain ⟨info', hinfo', hid⟩ := Option.map_eq_some_iff.mp heq
  exact ⟨info', hinfo', (Prod.mk.inj hid).1⟩

theorem config_some (h : Steady w w') {k : UInt64 × UInt32} {cfg' : UrrConfig}
    (hk : w'.srv.urrConfigs.lookup k = some cfg') :
    ∃ cfg, w.srv.urrConfigs.lookup k = some cfg ∧ cfg.cpSeid = cfg'.cpSeid := by
  have := h.config k
  rw [hk, Option.map_some] at this
  simpa using this.symm

theorem trans (h : Steady w w') (h' : Steady w' w'') : Steady w w'' where
  associations := h'.associations.trans h.associations
  nextSeid := h'.nextSeid.trans h.nextSeid
  peerAddr := h'.peerAddr.trans h.peerAddr
  session s := (h'.session s).trans (h.session s)
  sessionRow k := (h'.sessionRow k).trans (h.sessionRow k)
  pdrMap := h'.pdrMap.trans h.pdrMap
  farRow k := (h'.farRow k).trans (h.farRow k)
  urrRow k hk := by
    rcases h'.urrRow k hk with hk | ⟨key, info', id, hi, rfl⟩
    · exact h.urrRow k hk
    · obtain ⟨info, hinfo, hseid, -⟩ := h.sessionRow_some hi
      exact .inr ⟨key, info, id, hinfo, by rw [hseid]⟩
  config k := (h'.config k).trans (h.config k)

end Steady

/-! ### Establishment -/

/-- An insert made for the SEID `seid` and the UE key `key`, with `cpSeid` in its configuration. -/
def InstallStep.For (seid : UInt64) (key : SessionKey) (cpSeid : UInt64) : InstallStep → Prop
  | .session k info => k = key ∧ info.seid = seid
  | .pdr k _ => ∃ id, k = .new seid id
  | .far k _ => ∃ id, k = .new seid id
  | .urr k config => (∃ id, k = .new seid id) ∧ config.seid = seid ∧ config.cpSeid = cpSeid

theorem installSteps_for {e : Endian} {env : Env} {n3Addr : Ipv4Addr} {seid : UInt64}
    {teid : UInt32} {ueIp : Ipv4Addr} {gnbInfo : OuterHeaderCreation}
    {req : SessionEstablishmentReq} {s : InstallStep}
    (hs : s ∈ installSteps e env n3Addr seid teid ueIp gnbInfo req) :
    s.For seid (.ofIp e ueIp) req.cpSeid := by
  simp only [installSteps, List.mem_cons, List.mem_append, List.mem_map] at hs
  rcases hs with rfl | (⟨pdr, -, rfl⟩ | ⟨far, -, rfl⟩) | ⟨p, -, rfl⟩
  · exact ⟨rfl, rfl⟩
  · exact ⟨_, rfl⟩
  · exact ⟨_, rfl⟩
  · exact ⟨⟨_, rfl⟩, rfl, rfl⟩

/-- **The invariant rule of `install`.**  What every insert of the list keeps, the list keeps,
whether or not it runs to its end. -/
theorem install_inv {P : World → Prop} : ∀ {ss : List InstallStep} {w : World},
    (∀ s ∈ ss, ∀ w w', s.apply w = some w' → P w → P w') → P w → P (install ss w).2
  | [], _, _, h => h
  | s :: ss, w, hs, h => by
    unfold install
    cases hw : s.apply w with
    | none => exact h
    | some w' =>
      exact install_inv (fun t ht => hs t (List.mem_cons_of_mem _ ht))
        (hs s (List.mem_cons_self ..) w w' hw h)

/-- One insert: either it fails, or it puts its row into its map. -/
theorem InstallStep.apply_some {s : InstallStep} {w w' : World} (h : s.apply w = some w') :
    match s with
    | .session k info => ∃ m, w.maps.sessionMap.insert k info = some m ∧
        w' = { w with maps := { w.maps with sessionMap := m } }
    | .pdr k v => ∃ m, w.maps.pdrMap.insert k v = some m ∧
        w' = { w with maps := { w.maps with pdrMap := m } }
    | .far k v => ∃ m, w.maps.farMap.insert k v = some m ∧
        w' = { w with maps := { w.maps with farMap := m } }
    | .urr k config => ∃ m, (w.maps.urrMap.insert k fun _ => {}) = some m ∧
        w' = { w with
          maps := { w.maps with urrMap := m }
          srv := { w.srv with
            urrConfigs := w.srv.urrConfigs.insert (config.seid, config.urrId) config } } := by
  cases s <;> simp only [InstallStep.apply, Option.map_eq_some_iff] at h <;>
    · obtain ⟨m, hm, rfl⟩ := h
      exact ⟨m, hm, rfl⟩

theorem InstallStep.apply_kept {s : InstallStep} {seid : UInt64} {key : SessionKey}
    {cpSeid : UInt64} (hs : s.For seid key cpSeid) {w w' : World} (h : s.apply w = some w') :
    Kept seid key w w' := by
  have hc := apply_some h
  cases s with
  | session k info =>
    obtain ⟨m, hm, rfl⟩ := hc
    refine { (Kept.refl : Kept seid key w w) with sessionRow := fun j hj => ?_ }
    exact (BoundedTable.lookup_of_insert hm j).trans (if_neg (by rw [hs.1]; exact hj))
  | pdr k v =>
    obtain ⟨m, hm, rfl⟩ := hc
    obtain ⟨id, rfl⟩ := hs
    refine { Kept.refl with pdrRow := fun j hj => ?_ }
    exact (BoundedTable.lookup_of_insert hm j).trans (if_neg (hj id))
  | far k v =>
    obtain ⟨m, hm, rfl⟩ := hc
    obtain ⟨id, rfl⟩ := hs
    refine { Kept.refl with farRow := fun j hj => ?_ }
    exact (BoundedTable.lookup_of_insert hm j).trans (if_neg (hj id))
  | urr k config =>
    obtain ⟨m, hm, rfl⟩ := hc
    obtain ⟨⟨id, rfl⟩, hseid, -⟩ := hs
    refine { Kept.refl with urrRow := fun j hj => ?_, config := fun b i hb => ?_ }
    · exact (BoundedTable.lookup_of_insert hm j).trans (if_neg (hj id))
    · refine (Table.lookup_insert_ite _ _ _ _).trans (if_neg fun he => hb ?_)
      rw [← hseid]
      exact congrArg Prod.fst he

section Install

variable {ss : List InstallStep} {seid : UInt64} {key : SessionKey} {cpSeid : UInt64} {w : World}

theorem install_kept (hs : ∀ s ∈ ss, s.For seid key cpSeid) : Kept seid key w (install ss w).2 :=
  install_inv (fun s hmem _ _ h hk => hk.trans (s.apply_kept (hs s hmem) h)) .refl

/-- Inserts change nothing of the server but `urr_configs`, and none of the maps that only the
data plane writes. -/
theorem install_srv (ss : List InstallStep) (w : World) :
    (install ss w).2.srv = { w.srv with urrConfigs := (install ss w).2.srv.urrConfigs } ∧
      (install ss w).2.gauge = w.gauge ∧ (install ss w).2.tasks = w.tasks ∧
      (install ss w).2.maps.statsMap = w.maps.statsMap := by
  refine install_inv (P := fun w' => w'.srv = { w.srv with urrConfigs := w'.srv.urrConfigs } ∧
    w'.gauge = w.gauge ∧ w'.tasks = w.tasks ∧ w'.maps.statsMap = w.maps.statsMap) ?_
    ⟨rfl, rfl, rfl, rfl⟩
  rintro s - w₁ w₂ h ⟨h1, h2, h3, h4⟩
  have hc := s.apply_some h
  cases s <;>
    · obtain ⟨m, -, rfl⟩ := hc
      refine ⟨?_, h2, h3, h4⟩
      simp only
      rw [h1]

/-- A configuration that was not there before is of the establishment's SEID and carries the SEID
its SMF chose. -/
theorem install_config (hs : ∀ s ∈ ss, s.For seid key cpSeid) {k : UInt64 × UInt32}
    {cfg : UrrConfig} (h : (install ss w).2.srv.urrConfigs.lookup k = some cfg) :
    w.srv.urrConfigs.lookup k = some cfg ∨ k.1 = seid ∧ cfg.cpSeid = cpSeid := by
  revert h
  refine install_inv (P := fun w' => w'.srv.urrConfigs.lookup k = some cfg →
    w.srv.urrConfigs.lookup k = some cfg ∨ k.1 = seid ∧ cfg.cpSeid = cpSeid) ?_ .inl
  intro s hmem w₁ w₂ h h1 h2
  have hc := s.apply_some h
  cases s with
  | session k info | pdr k v | far k v =>
    obtain ⟨m, -, rfl⟩ := hc
    exact h1 h2
  | urr k' config =>
    obtain ⟨m, -, rfl⟩ := hc
    obtain ⟨-, hseid, hcp⟩ := hs _ hmem
    have h2' := (Table.lookup_insert_ite _ _ _ _).symm.trans h2
    split_ifs at h2' with hk
    · obtain rfl := Option.some.inj h2'
      exact .inr ⟨by rw [hk, hseid], hcp⟩
    · exact h1 h2'

/-- Only a session insert touches SESSION_MAP. -/
theorem install_sessionMap (hs : ∀ s ∈ ss, ∀ k info, s ≠ .session k info) :
    (install ss w).2.maps.sessionMap = w.maps.sessionMap := by
  refine install_inv (P := fun w' => w'.maps.sessionMap = w.maps.sessionMap) ?_ rfl
  intro s hmem w₁ w₂ h h1
  have hc := s.apply_some h
  cases s with
  | session k info => exact absurd rfl (hs _ hmem k info)
  | pdr k v | far k v | urr k v =>
    obtain ⟨m, -, rfl⟩ := hc
    exact h1

/-- What the inserts of an establishment do to SESSION_MAP: nothing, when the first of them fails;
else they write its row. -/
theorem installSteps_sessionMap (e : Endian) (env : Env) (n3Addr : Ipv4Addr) (seid : UInt64)
    (teid : UInt32) (ueIp : Ipv4Addr) (gnbInfo : OuterHeaderCreation)
    (req : SessionEstablishmentReq) (w : World) :
    let info := sessionInfo e n3Addr seid teid gnbInfo req.createPdrs
    let out := install (installSteps e env n3Addr seid teid ueIp gnbInfo req) w
    (w.maps.sessionMap.insert (.ofIp e ueIp) info = none ∧ out = (false, w)) ∨
      w.maps.sessionMap.insert (.ofIp e ueIp) info = some out.2.maps.sessionMap := by
  intro info out
  cases hm : w.maps.sessionMap.insert (.ofIp e ueIp) info with
  | none =>
    left
    refine ⟨rfl, ?_⟩
    simp only [out, installSteps, install, InstallStep.apply]
    rw [hm]
    rfl
  | some m =>
    right
    have hout : out = install (installSteps e env n3Addr seid teid ueIp gnbInfo req).tail
        { w with maps := { w.maps with sessionMap := m } } := by
      simp only [out, installSteps, install, InstallStep.apply]
      rw [hm]
      rfl
    rw [hout, install_sessionMap]
    intro s hs k info h
    simp [installSteps, h] at hs

end Install

/-! ### Modification -/

section Modify

variable {e : Endian} {seid : UInt64} {ueIp : Ipv4Addr} {w : World}

theorem updateFar_kept (key : SessionKey) (far : ParsedFAR) :
    Kept seid key w (updateFar e seid key far w) := by
  unfold updateFar
  cases far.outerHeaderCreation with
  | none => exact .refl
  | some ohc =>
    have hfar : ∀ (f : FarValue → FarValue) (k : FarKey), (∀ id, k ≠ FarKey.new seid id) →
        (w.maps.farMap.modify (.new seid far.farId) f).lookup k = w.maps.farMap.lookup k :=
      fun f k hk => (BoundedTable.lookup_modify _ _ _ _).trans (if_neg (hk _))
    simp only
    split_ifs
    · refine { (Kept.refl : Kept seid key w w) with
        farRow := fun k hk => hfar _ k hk
        sessionRow := fun k hk => ?_
        session := fun b hb => ?_ }
      · exact (BoundedTable.lookup_modify _ _ _ _).trans (if_neg hk)
      · exact (Table.lookup_modify _ _ _ _).trans (if_neg hb)
    · exact { Kept.refl with farRow := fun k hk => hfar _ k hk }

theorem updateUrr_kept (key : SessionKey) (urr : ParsedURR) :
    Kept seid key w (updateUrr seid urr w) := by
  refine { Kept.refl with config := fun b id hb => ?_ }
  exact (Table.lookup_modify _ _ _ _).trans (if_neg fun h => hb (congrArg Prod.fst h))

/-- What both update loops keep, a modification keeps. -/
theorem modifySession_inv {P : World → Prop} {req : SessionModificationReq}
    (hfar : ∀ far w, P w → P (updateFar e seid (.ofIp e ueIp) far w))
    (hurr : ∀ urr w, P w → P (updateUrr seid urr w)) (h : P w) :
    P (modifySession e seid ueIp req w) :=
  List.foldlRecOn _ _ (List.foldlRecOn _ _ h fun w hw far _ => hfar far w hw)
    fun w hw urr _ => hurr urr w hw

theorem modifySession_kept {req : SessionModificationReq} :
    Kept seid (.ofIp e ueIp) w (modifySession e seid ueIp req w) :=
  modifySession_inv (fun far _ h => h.trans (updateFar_kept _ far))
    (fun urr _ h => h.trans (updateUrr_kept _ urr)) .refl

theorem updateFar_steady (key : SessionKey) (far : ParsedFAR) :
    Steady w (updateFar e seid key far w) := by
  unfold updateFar
  cases far.outerHeaderCreation with
  | none => exact .refl
  | some ohc =>
    have hfar : ∀ (f : FarValue → FarValue) (k : FarKey),
        ((w.maps.farMap.modify (.new seid far.farId) f).lookup k).isSome =
          (w.maps.farMap.lookup k).isSome := by
      intro f k
      rw [BoundedTable.lookup_modify]
      split_ifs
      · exact Option.isSome_map
      · rfl
    simp only
    split_ifs
    · refine { (Steady.refl : Steady w w) with
        farRow := fun k => hfar _ k
        session := fun s => ?_
        sessionRow := fun k => ?_ }
      · refine (congrArg _ (Table.lookup_modify _ _ _ _)).trans ?_
        split_ifs
        · exact Option.map_map ..
        · rfl
      · refine (congrArg _ (BoundedTable.lookup_modify _ _ _ _)).trans ?_
        split_ifs
        · exact Option.map_map ..
        · rfl
    · exact { Steady.refl with farRow := fun k => hfar _ k }

theorem updateUrr_steady (urr : ParsedURR) : Steady w (updateUrr seid urr w) := by
  refine { Steady.refl with config := fun k => ?_ }
  refine (congrArg _ (Table.lookup_modify _ _ _ _)).trans ?_
  split_ifs
  · exact Option.map_map ..
  · rfl

theorem modifySession_steady {req : SessionModificationReq} :
    Steady w (modifySession e seid ueIp req w) :=
  modifySession_inv (fun far _ h => h.trans (updateFar_steady _ far))
    (fun urr _ h => h.trans (updateUrr_steady urr)) .refl

end Modify

/-! ### Deletion -/

section Delete

variable {e : Endian} {env : Env} {seid : UInt64} {data : SessionData}

/-- The keys a deletion removes are keys of its SEID. -/
theorem notMem_map_new {K : Type} {new : UInt64 → UInt32 → K} {k : K} {ids : List UInt32}
    (hk : ∀ id, k ≠ new seid id) : k ∉ ids.map (new seid) := by
  intro hm
  obtain ⟨id, -, rfl⟩ := List.mem_map.mp hm
  exact hk id rfl

theorem Deletion.remove_kept (d : Deletion) {w w' : World} (hm : w'.maps = d.remove w.maps)
    (hc : w'.srv.urrConfigs = w.srv.urrConfigs)
    (hs : ∀ b, b ≠ d.seid → w'.srv.sessions.lookup b = w.srv.sessions.lookup b) :
    Kept d.seid d.key w w' where
  sessionRow k hk := by
    rw [hm]
    exact (BoundedTable.lookup_erase_ite _ _ _).trans (if_neg hk)
  pdrRow k hk := by
    rw [hm]
    exact (BoundedTable.lookup_eraseAll _ _ _).trans (if_neg (notMem_map_new hk))
  farRow k hk := by
    rw [hm]
    exact (BoundedTable.lookup_eraseAll _ _ _).trans (if_neg (notMem_map_new hk))
  urrRow k hk := by
    rw [hm]
    exact (BoundedTable.lookup_eraseAll _ _ _).trans (if_neg (notMem_map_new hk))
  config b id _ := by rw [hc]
  session := hs

end Delete

end UpfEdge.Server
