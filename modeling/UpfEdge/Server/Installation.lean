import UpfEdge.Server.Effects

/-!
# What an establishment writes

The inserts of an establishment are one list, and each table takes those of the list that are its
own: after the inserts that were made it is the table before with these writes, in order
(`install_table`).  `installSteps_far` and its siblings are the writes of a whole request, and
`installed_far` and its siblings the rows that they leave.
-/

namespace UpfEdge.Server

open Lib Pfcp

namespace InstallStep

def sessionWrite : InstallStep → Option (SessionKey × SessionInfo)
  | .session k info => some (k, info)
  | _ => none

def pdrWrite : InstallStep → Option (PdrKey × PdrValue)
  | .pdr k v => some (k, v)
  | _ => none

def farWrite : InstallStep → Option (FarKey × FarValue)
  | .far k v => some (k, v)
  | _ => none

def urrWrite : InstallStep → Option (UrrKey × PerCpu UrrStats)
  | .urr k _ => some (k, fun _ => {})
  | _ => none

def configWrite : InstallStep → Option ((UInt64 × UInt32) × UrrConfig)
  | .urr _ config => some ((config.seid, config.urrId), config)
  | _ => none

section Apply

variable {s : InstallStep} {w w' : World}

theorem apply_sessionMap (h : s.apply w = some w') : w'.maps.sessionMap.lookup =
    (s.sessionWrite.toList).foldl put w.maps.sessionMap.lookup := by
  have hc := apply_some h
  cases s <;> obtain ⟨m, hm, rfl⟩ := hc
  · exact BoundedTable.lookup_insert_eq hm
  all_goals rfl

theorem apply_pdrMap (h : s.apply w = some w') : w'.maps.pdrMap.lookup =
    (s.pdrWrite.toList).foldl put w.maps.pdrMap.lookup := by
  have hc := apply_some h
  cases s <;> obtain ⟨m, hm, rfl⟩ := hc
  case pdr => exact BoundedTable.lookup_insert_eq hm
  all_goals rfl

theorem apply_farMap (h : s.apply w = some w') : w'.maps.farMap.lookup =
    (s.farWrite.toList).foldl put w.maps.farMap.lookup := by
  have hc := apply_some h
  cases s <;> obtain ⟨m, hm, rfl⟩ := hc
  case far => exact BoundedTable.lookup_insert_eq hm
  all_goals rfl

theorem apply_urrMap (h : s.apply w = some w') : w'.maps.urrMap.lookup =
    (s.urrWrite.toList).foldl put w.maps.urrMap.lookup := by
  have hc := apply_some h
  cases s <;> obtain ⟨m, hm, rfl⟩ := hc
  case urr => exact BoundedTable.lookup_insert_eq hm
  all_goals rfl

theorem apply_urrConfigs (h : s.apply w = some w') : w'.srv.urrConfigs.lookup =
    (s.configWrite.toList).foldl put w.srv.urrConfigs.lookup := by
  have hc := apply_some h
  cases s <;> obtain ⟨m, hm, rfl⟩ := hc
  case urr k config => exact Table.lookup_insert_eq _ _ config
  all_goals rfl

end Apply

end InstallStep

/-- **What the inserts do to a table**: those that were made, the first of the list and all of it
when the list was run to its end, are written to it in order. -/
theorem install_table {K V : Type} [DecidableEq K] {T : World → K → Option V}
    {write : InstallStep → Option (K × V)}
    (happly : ∀ {s w w'}, InstallStep.apply s w = some w' →
      T w' = ((write s).toList).foldl put (T w)) :
    ∀ {ss : List InstallStep} {w w' : World} {ok : Bool}, install ss w = (ok, w') →
      ∃ done, done <+: ss ∧ (ok = true → done = ss) ∧
        T w' = (done.filterMap write).foldl put (T w)
  | [], w, w', ok, h => by
    obtain ⟨-, rfl⟩ := Prod.mk.inj h
    exact ⟨[], List.prefix_rfl, fun _ => rfl, rfl⟩
  | s :: ss, w, w', ok, h => by
    unfold install at h
    cases hs : s.apply w with
    | none =>
      rw [hs] at h
      obtain ⟨rfl, rfl⟩ := Prod.mk.inj h
      exact ⟨[], List.nil_prefix, fun hok => (Bool.false_ne_true hok).elim, rfl⟩
    | some w₁ =>
      rw [hs] at h
      obtain ⟨done, hpre, hall, heq⟩ := install_table happly h
      refine ⟨s :: done, List.cons_prefix_cons.mpr ⟨rfl, hpre⟩, fun hok => by rw [hall hok], ?_⟩
      rw [heq, happly hs]
      cases hw : write s with
      | none => simp [hw]
      | some p => simp [hw]

/-- One key of a table, when the list writes the values of `L`: a key that it does not name is left
alone, and when all inserts are made a key that it names has the last value for it. -/
theorem install_lookup {K V A : Type} [DecidableEq K] {T : World → K → Option V}
    {write : InstallStep → Option (K × V)}
    (happly : ∀ {s w w'}, InstallStep.apply s w = some w' →
      T w' = ((write s).toList).foldl put (T w))
    {ss : List InstallStep} {w w' : World} {ok : Bool} (h : install ss w = (ok, w'))
    {L : List (K × A)} {val : A → V} (hL : ss.filterMap write = L.map fun p => (p.1, val p.2))
    (k : K) : (lastPut L k = none → T w' k = T w k) ∧
      ∀ a, ok = true → lastPut L k = some a → T w' k = some (val a) := by
  obtain ⟨done, hpre, hall, htable⟩ := install_table happly h
  rw [htable, foldl_put_eq]
  constructor
  · intro hnone
    have hkeys := lastPut_eq_none_iff.mp hnone
    have hdone : lastPut (done.filterMap write) k = none := by
      refine lastPut_eq_none_iff.mpr fun hk => hkeys ?_
      obtain ⟨p, hp, rfl⟩ := List.mem_map.mp hk
      have hp' := (hpre.filterMap write).subset hp
      rw [hL] at hp'
      obtain ⟨q, hq, rfl⟩ := List.mem_map.mp hp'
      exact List.mem_map_of_mem hq
    rw [hdone, Option.none_or]
  · intro a hok hlast
    rw [hall hok, hL, lastPut_map, hlast]
    rfl

/-! ### The writes of a request -/

section Request

variable (e : Endian) (env : Env) (n3Addr : Ipv4Addr) (seid : UInt64) (teid : UInt32)
  (ueIp : Ipv4Addr) (gnbInfo : OuterHeaderCreation) (req : SessionEstablishmentReq)

theorem installSteps_session :
    (installSteps e env n3Addr seid teid ueIp gnbInfo req).filterMap InstallStep.sessionWrite =
      [(.ofIp e ueIp, sessionInfo e n3Addr seid teid gnbInfo req.createPdrs)] := by
  simp [installSteps, InstallStep.sessionWrite, List.filterMap_map, Function.comp_def]

theorem installSteps_pdr :
    (installSteps e env n3Addr seid teid ueIp gnbInfo req).filterMap InstallStep.pdrWrite =
      req.createPdrs.map fun pdr => (.new seid pdr.pdrId.toUInt32, pdrValue e ueIp pdr) := by
  rw [installSteps, List.filterMap_cons_none rfl]
  simp [InstallStep.pdrWrite, List.filterMap_map, Function.comp_def]

theorem installSteps_far :
    (installSteps e env n3Addr seid teid ueIp gnbInfo req).filterMap InstallStep.farWrite =
      req.createFars.map fun far => (.new seid far.farId, farValue e n3Addr far) := by
  rw [installSteps, List.filterMap_cons_none rfl]
  simp [InstallStep.farWrite, List.filterMap_map, Function.comp_def]

theorem installSteps_urr :
    (installSteps e env n3Addr seid teid ueIp gnbInfo req).filterMap InstallStep.urrWrite =
      req.createUrrs.zipIdx.map fun p => (.new seid p.1.urrId, fun _ => {}) := by
  rw [installSteps, List.filterMap_cons_none rfl]
  simp [InstallStep.urrWrite, List.filterMap_map, Function.comp_def]

theorem installSteps_config :
    (installSteps e env n3Addr seid teid ueIp gnbInfo req).filterMap InstallStep.configWrite =
      req.createUrrs.zipIdx.map fun p =>
        ((seid, p.1.urrId), urrConfig seid req.cpSeid (env.now p.2) p.1) := by
  rw [installSteps, List.filterMap_cons_none rfl]
  simp [InstallStep.configWrite, List.filterMap_map, Function.comp_def, urrConfig]

end Request

/-! ### The rows after the inserts -/

/-- The FARs of a request under their keys. -/
def farsOf (seid : UInt64) (req : SessionEstablishmentReq) : List (FarKey × ParsedFAR) :=
  req.createFars.map fun far => (.new seid far.farId, far)

theorem mem_farsOf {seid : UInt64} {req : SessionEstablishmentReq} {k : FarKey} {far : ParsedFAR}
    (h : lastPut (farsOf seid req) k = some far) :
    far ∈ req.createFars ∧ k = .new seid far.farId := by
  obtain ⟨far', hmem, heq⟩ := List.mem_map.mp (mem_of_lastPut h)
  obtain ⟨rfl, rfl⟩ := Prod.mk.inj heq
  exact ⟨hmem, rfl⟩

/-- The Create URRs of a request, numbered and under their keys. -/
def urrsOf (seid : UInt64) (req : SessionEstablishmentReq) :
    List ((UInt64 × UInt32) × ParsedURR × ℕ) :=
  req.createUrrs.zipIdx.map fun p => ((seid, p.1.urrId), p)

theorem mem_urrsOf {seid : UInt64} {u : UInt32} {req : SessionEstablishmentReq} {p : ParsedURR × ℕ}
    (h : lastPut (urrsOf seid req) (seid, u) = some p) :
    p ∈ req.createUrrs.zipIdx ∧ u = p.1.urrId := by
  obtain ⟨q, hq, heq⟩ := List.mem_map.mp (mem_of_lastPut h)
  obtain ⟨hkey, rfl⟩ := Prod.mk.inj heq
  exact ⟨hq, (Prod.mk.inj hkey).2.symm⟩

section Installed

variable {e : Endian} {env : Env} {n3Addr : Ipv4Addr} {seid : UInt64} {teid : UInt32}
  {ueIp : Ipv4Addr} {gnbInfo : OuterHeaderCreation} {req : SessionEstablishmentReq}
  {w w' : World} {u : UInt32} {p : ParsedURR × ℕ}

/-- The FAR rows after the inserts of an establishment. -/
theorem installed_far {ok : Bool}
    (hinst : install (installSteps e env n3Addr seid teid ueIp gnbInfo req) w = (ok, w'))
    (k : FarKey) :
    (lastPut (farsOf seid req) k = none → w'.maps.farMap.lookup k = w.maps.farMap.lookup k) ∧
      ∀ far, ok = true → lastPut (farsOf seid req) k = some far →
        w'.maps.farMap.lookup k = some (farValue e n3Addr far) := by
  refine install_lookup (T := fun w => w.maps.farMap.lookup) InstallStep.apply_farMap hinst ?_ k
  rw [installSteps_far, farsOf, List.map_map]
  rfl

/-- The configurations of the new SEID after the inserts of an establishment. -/
theorem installed_config
    (h : install (installSteps e env n3Addr seid teid ueIp gnbInfo req) w = (true, w')) :
    (lastPut (urrsOf seid req) (seid, u) = none →
      w'.srv.urrConfigs.lookup (seid, u) = w.srv.urrConfigs.lookup (seid, u)) ∧
    ∀ p, true = true → lastPut (urrsOf seid req) (seid, u) = some p →
      w'.srv.urrConfigs.lookup (seid, u) =
        some (urrConfig seid req.cpSeid (env.now p.2) p.1) := by
  refine install_lookup (T := fun w => w.srv.urrConfigs.lookup) InstallStep.apply_urrConfigs h ?_ _
  rw [installSteps_config, urrsOf, List.map_map]
  rfl

/-- The URR_MAP row of a Create URR. -/
theorem installed_urr
    (h : install (installSteps e env n3Addr seid teid ueIp gnbInfo req) w = (true, w'))
    (hmem : p ∈ req.createUrrs.zipIdx) :
    w'.maps.urrMap.lookup (.new seid p.1.urrId) = some fun _ => {} := by
  have hkey : UrrKey.new seid p.1.urrId ∈
      ((req.createUrrs.zipIdx.map fun p => (UrrKey.new seid p.1.urrId, ())).map Prod.fst) := by
    rw [List.map_map]
    exact List.mem_map.mpr ⟨p, hmem, rfl⟩
  obtain ⟨v, hv⟩ := Option.ne_none_iff_exists'.mp (mt lastPut_eq_none_iff.mp (not_not.mpr hkey))
  obtain ⟨-, hlookup⟩ : (lastPut _ (UrrKey.new seid p.1.urrId) = none →
      w'.maps.urrMap.lookup (.new seid p.1.urrId) = w.maps.urrMap.lookup (.new seid p.1.urrId)) ∧
    ∀ a : Unit, true = true → lastPut _ (UrrKey.new seid p.1.urrId) = some a →
      w'.maps.urrMap.lookup (.new seid p.1.urrId) = some ((fun _ _ => {}) a) := by
    refine install_lookup (T := fun w => w.maps.urrMap.lookup) InstallStep.apply_urrMap h
      (L := req.createUrrs.zipIdx.map fun p => (UrrKey.new seid p.1.urrId, ())) ?_ _
    rw [installSteps_urr, List.map_map]
    rfl
  exact hlookup v rfl hv

end Installed

end UpfEdge.Server
