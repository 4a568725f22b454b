import Mathlib.Data.List.Dedup
import UpfEdge.Ledger
import UpfEdge.SmfSim

/-!
# What a deletion leaves behind

A deletion does not enumerate the rules of its SEID.  It walks from the SESSION_MAP row of the UE
address to the at most eight PDR ids listed there, and from those PDR rows to the ids of a FAR and
of a URR; it never looks at `urr_configs`, and it clears the table of the association it found for
its source.  So it leaves nothing behind (`Clean`) exactly when that walk passes everything the SEID
has (`Walked`).
-/

namespace UpfEdge

open Lib Pfcp Server

namespace Audit

/-- Nothing is left of session `s`. -/
structure Clean (e : Endian) (a : Audit) (s : UInt64) (session : SessionData) : Prop where
  pdr : ∀ k : PdrKey, seidPart k.key = s → a.maps.pdrMap.lookup k = none
  far : ∀ k : FarKey, seidPart k.key = s → a.maps.farMap.lookup k = none
  urr : ∀ k : UrrKey, seidPart k.key = s → a.maps.urrMap.lookup k = none
  config : ∀ u, a.srv.urrConfigs.lookup (s, u) = none
  row : a.maps.sessionMap.lookup (.ofIp e session.ueIp) = none
  entry : a.srv.sessions.lookup s = none
  owner : ∀ o x, a.origin.lookup s = some o → a.srv.associations.lookup o.nodeId = some x →
    x.sessions.lookup session.cpSeid = none

/-- The PDR ids that the SESSION_MAP row of the session's UE address lists. -/
def listedIds (e : Endian) (a : Audit) (session : SessionData) : List UInt32 :=
  ((a.maps.sessionMap.lookup (.ofIp e session.ueIp)).map (·.listed)).getD []

/-- The PDR rows of `s` under those ids. -/
def listedRows (e : Endian) (a : Audit) (s : UInt64) (session : SessionData) : List PdrValue :=
  (a.listedIds e session).filterMap fun id => a.maps.pdrMap.lookup (.new s id)

/-- Everything there is of session `s` is on the walk of its deletion by `deleter`: its PDR rows are
listed, its FAR and URR rows are those the listed PDR rows name, it has no URR configuration, and
the association that established it is `deleter` or has no session under its SEID. -/
structure Walked (e : Endian) (a : Audit) (s : UInt64) (session : SessionData)
    (deleter : SmfAssociation) : Prop where
  pdr : ∀ x ∈ a.maps.pdrMap.rows.entries, seidPart x.1.key = s →
    x.1 ∈ (a.listedIds e session).map (PdrKey.new s)
  far : ∀ x ∈ a.maps.farMap.rows.entries, seidPart x.1.key = s →
    x.1 ∈ (a.listedRows e s session).map fun pdr => FarKey.new s pdr.farId
  urr : ∀ x ∈ a.maps.urrMap.rows.entries, seidPart x.1.key = s →
    x.1 ∈ ((a.listedRows e s session).filter (·.urrId ≠ 0)).map fun pdr => UrrKey.new s pdr.urrId
  config : ∀ x ∈ a.srv.urrConfigs.entries, x.1.1 ≠ s
  owner : ∀ o ∈ a.origin.lookup s, ∀ x ∈ a.srv.associations.lookup o.nodeId,
    (x.sessions.lookup session.cpSeid).isSome → deleter.nodeId = o.nodeId

instance (e : Endian) (a : Audit) (s : UInt64) (session : SessionData) (deleter : SmfAssociation) :
    Decidable (a.Walked e s session deleter) :=
  decidable_of_iff (_ ∧ _ ∧ _ ∧ _ ∧ _)
    ⟨fun ⟨h₁, h₂, h₃, h₄, h₅⟩ => ⟨h₁, h₂, h₃, h₄, h₅⟩,
      fun h => ⟨h.pdr, h.far, h.urr, h.config, h.owner⟩⟩

section Step

variable {host : Host} {a : Audit} {env : Env} {now : Instant} {data : Bytes} {src : SocketAddr}
  {s : UInt64} {session : SessionData} {assoc : Sigma fun _ : Ipv4Addr => SmfAssociation}

/-- The keys a deletion erases, as the walk has them. -/
theorem mem_farIds {e : Endian} {m : Maps} {k : FarKey} :
    k ∈ ((Deletion.start e s session).collect env m).farIds.map (FarKey.new s) ↔
      k ∈ (((Deletion.start e s session).readSession m).listedPdrs m).map
        fun pdr => FarKey.new s pdr.farId := by
  simp only [Deletion.collect, Deletion.readPdrs, List.mem_map, IterOrder.mem_perm, List.mem_dedup]
  constructor
  · rintro ⟨_, ⟨pdr, hpdr, rfl⟩, rfl⟩
    exact ⟨pdr, hpdr, rfl⟩
  · rintro ⟨pdr, hpdr, rfl⟩
    exact ⟨_, ⟨pdr, hpdr, rfl⟩, rfl⟩

theorem mem_urrIds {e : Endian} {m : Maps} {k : UrrKey} :
    k ∈ ((Deletion.start e s session).collect env m).urrIds.map (UrrKey.new s) ↔
      k ∈ ((((Deletion.start e s session).readSession m).listedPdrs m).filter (·.urrId ≠ 0)).map
        fun pdr => UrrKey.new s pdr.urrId := by
  simp only [Deletion.collect, Deletion.readPdrs, List.mem_map, IterOrder.mem_perm, List.mem_dedup,
    List.mem_filter]
  constructor
  · rintro ⟨_, ⟨⟨pdr, hpdr, rfl⟩, hne⟩, rfl⟩
    exact ⟨pdr, ⟨hpdr, hne⟩, rfl⟩
  · rintro ⟨pdr, ⟨hpdr, hne⟩, rfl⟩
    exact ⟨_, ⟨⟨pdr, hpdr, rfl⟩, hne⟩, rfl⟩

/-- One accepted deletion, in any state. -/
theorem step_clean_iff
    (hdel : deletes env (received data) src a.world = some (s, session, assoc)) :
    Clean host.endian (a.step host (.datagram env now data src)) s session ↔
      Walked host.endian a s session assoc.2 := by
  obtain ⟨hw, ho⟩ := step_of_deletes host now hdel
  generalize a.step host (.datagram env now data src) = a' at hw ho ⊢
  have hpdr : a'.maps.pdrMap =
      a.maps.pdrMap.eraseAll ((a.listedIds host.endian session).map (PdrKey.new s)) := by
    rw [Audit.maps, hw]
    rfl
  have hfar : a'.maps.farMap = a.maps.farMap.eraseAll
      (((Deletion.start host.endian s session).collect env a.maps).farIds.map (FarKey.new s)) := by
    rw [Audit.maps, hw]
    rfl
  have hurr : a'.maps.urrMap = a.maps.urrMap.eraseAll
      (((Deletion.start host.endian s session).collect env a.maps).urrIds.map (UrrKey.new s)) := by
    rw [Audit.maps, hw]
    rfl
  have hconfigs : a'.srv.urrConfigs = a.srv.urrConfigs := by
    rw [Audit.srv, hw]
    rfl
  have hassoc : ∀ k, a'.srv.associations.lookup k = (a.srv.associations.lookup k).map fun x =>
      if k = assoc.2.nodeId then { x with sessions := x.sessions.erase session.cpSeid } else x := by
    intro k
    rw [Audit.srv, hw]
    exact lookup_unregisterSession ..
  constructor
  · intro h
    constructor
    · exact BoundedTable.eraseAll_eq_none_iff.mp (hpdr ▸ h.pdr)
    · have hfar' := BoundedTable.eraseAll_eq_none_iff.mp (hfar ▸ h.far)
      exact fun x hx hs => mem_farIds.mp (hfar' x hx hs)
    · have hurr' := BoundedTable.eraseAll_eq_none_iff.mp (hurr ▸ h.urr)
      exact fun x hx hs => mem_urrIds.mp (hurr' x hx hs)
    · rintro ⟨⟨s', u⟩, cfg⟩ hx rfl
      have hnone := h.config u
      rw [hconfigs] at hnone
      cases (Table.lookup_eq_some.mpr hx).symm.trans hnone
    · intro o hos x hx hsome
      by_contra hne
      rw [← ho] at hos
      have hx' : a'.srv.associations.lookup o.nodeId = some x := by
        rw [hassoc, hx, Option.map_some, if_neg (Ne.symm hne)]
      rw [h.owner o x hos hx'] at hsome
      cases hsome
  · intro h
    constructor
    · rw [hpdr]
      exact BoundedTable.eraseAll_eq_none_iff.mpr h.pdr
    · rw [hfar]
      exact BoundedTable.eraseAll_eq_none_iff.mpr fun x hx hs => mem_farIds.mpr (h.far x hx hs)
    · rw [hurr]
      exact BoundedTable.eraseAll_eq_none_iff.mpr fun x hx hs => mem_urrIds.mpr (h.urr x hx hs)
    · intro u
      rw [hconfigs]
      cases hk : a.srv.urrConfigs.lookup (s, u) with
      | none => rfl
      | some cfg => exact absurd rfl (h.config _ (Table.lookup_eq_some.mp hk))
    · rw [Audit.maps, hw, sessionMap_removeRules, if_pos rfl]
    · rw [Audit.srv, hw]
      exact (Table.lookup_erase_ite _ _ _).trans (if_pos rfl)
    · intro o x' hos hx'
      rw [ho] at hos
      rw [hassoc] at hx'
      obtain ⟨x, hx, rfl⟩ := Option.map_eq_some_iff.mp hx'
      split_ifs with hnode
      · exact (Table.lookup_erase_ite _ _ _).trans (if_pos rfl)
      · by_contra hsome
        exact hnode (h.owner o hos x hx (Option.isSome_iff_ne_none.mpr hsome)).symm

end Step

/-- **Deletion.**  In every state that a run reaches, an accepted deletion leaves nothing of its
session behind exactly when everything of the session is on its walk. -/
theorem deletion_clean_iff (host : Host) (b : Boot) (evs : List Event) (env : Env) (now : Instant)
    (data : Bytes) (src : SocketAddr) (s : UInt64) (session : SessionData)
    (assoc : Sigma fun _ : Ipv4Addr => SmfAssociation)
    (hdel : deletes env (received data) src (after host b evs).world =
      some (s, session, assoc)) :
    Clean host.endian (after host b (evs ++ [.datagram env now data src])) s session ↔
      Walked host.endian (after host b evs) s session assoc.2 := by
  have hstep : after host b (evs ++ [.datagram env now data src]) =
      (after host b evs).step host (.datagram env now data src) := run_concat _ _ _
  rw [hstep]
  exact step_clean_iff hdel

section Sim

open SmfSim

/-- A session without a URR, as `build_session_establishment_request` makes it. -/
def establishPlain (smf : Ipv4Addr) (cpSeid : UInt64) (ueIp : Ipv4Addr) : Event :=
  sends smf (buildSessionEstablishmentRequest 2 smf cpSeid ueIp gnb 0x80000001)

/-- Such a session is deleted without a trace. -/
theorem deletion_clean_iff_plain :
    ∃ session, (after host boot [setup smfA 1, establishPlain smfA 1 ue1]).Live 1 session ∧
      Clean host.endian (after host boot ([setup smfA 1, establishPlain smfA 1 ue1] ++
        [sends smfA (sessionDeletion 1)])) 1 session := by
  have hwalk : ∃ d ∈ deletes env (received (sessionDeletion 1)) (peer smfA)
      (after host boot [setup smfA 1, establishPlain smfA 1 ue1]).world, d.1 = 1 ∧
      (after host boot [setup smfA 1, establishPlain smfA 1 ue1]).Live 1 d.2.1 ∧
      Walked host.endian (after host boot [setup smfA 1, establishPlain smfA 1 ue1]) 1 d.2.1
        d.2.2.2 := by
    decide +kernel
  obtain ⟨⟨s, session, assoc⟩, hdel, rfl, hlive, hw⟩ := hwalk
  exact ⟨session, hlive, (deletion_clean_iff host boot _ env 0 _ _ _ _ _ hdel).mpr hw⟩

/-- The simulator's own session has a URR, and its deletion is accepted but leaves the URR's
configuration behind, although no other session is live. -/
theorem not_clean_urr_config :
    let evs := [setup smfA 1, establish smfA 1 ue1]
    (∀ x ∈ (after host boot evs).srv.sessions.entries,
      ∀ y ∈ (after host boot evs).srv.sessions.entries, x.2.ueIp = y.2.ueIp → x.1 = y.1) ∧
    ∃ d ∈ deletes env (received (sessionDeletion 1)) (peer smfA) (after host boot evs).world,
      d.1 = 1 ∧ ¬ Clean host.endian (after host boot (evs ++ [sends smfA (sessionDeletion 1)])) 1
        d.2.1 := by
  refine ⟨by decide +kernel, ?_⟩
  have hdel : (deletes env (received (sessionDeletion 1)) (peer smfA)
      (after host boot [setup smfA 1, establish smfA 1 ue1]).world).map Prod.fst = some 1 := by
    decide +kernel
  obtain ⟨d, hd, hone⟩ := Option.map_eq_some_iff.mp hdel
  refine ⟨d, hd, hone, fun hclean => ?_⟩
  have hleft : ((after host boot ([setup smfA 1, establish smfA 1 ue1] ++
      [sends smfA (sessionDeletion 1)])).srv.urrConfigs.lookup (1, 1)).isSome := by
    decide +kernel
  rw [hclean.config 1] at hleft
  cases hleft

end Sim

end Audit

end UpfEdge
