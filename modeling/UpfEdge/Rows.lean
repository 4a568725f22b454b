import UpfEdge.Ledger
import UpfEdge.SmfSim

/-!
# Whose SESSION_MAP row it is

SESSION_MAP is keyed by the UE address, everything else by the SEID.  The row of a live session is
its own (`OwnRows`) in every state of a run exactly when no establishment of the run that gets as
far as writing its row names the address of another live session (`NewAddress`): nothing checks for
that, and the row is simply overwritten.
-/

namespace UpfEdge

open Lib Pfcp Server

namespace Audit

/-- Every live session has a SESSION_MAP row at its UE address, and the row carries its SEID. -/
def OwnRows (host : Host) (a : Audit) : Prop :=
  ∀ s data, a.Live s data →
    ∃ info, a.maps.sessionMap.lookup (.ofIp host.endian data.ueIp) = some info ∧ info.seid = s

/-- An establishment that gets as far as its SESSION_MAP insert names an address that no other live
session has. -/
def NewAddress (a : Audit) (ev : Event) : Prop :=
  ∀ adm, a.admission ev = some adm →
    ∀ t data, a.Live t data → t ≠ a.srv.nextSeid → data.ueIp ≠ adm.ueIp

instance (a : Audit) (ev : Event) : Decidable (a.NewAddress ev) :=
  decidable_of_iff
    ((a.admission ev).all fun adm => a.srv.sessions.entries.all fun x =>
      decide (x.1 ≠ a.srv.nextSeid → x.2.ueIp ≠ adm.ueIp)) <| by
    rw [Option.all_eq_true]
    simp only [List.all_eq_true, decide_eq_true_eq]
    exact forall₂_congr fun adm _ =>
      ⟨fun h t data hlive => h ⟨t, data⟩ (Table.lookup_eq_some.mp hlive),
        fun h x hx => h x.1 x.2 (Table.lookup_eq_some.mpr hx)⟩

section Step

variable {host : Host} {a : Audit} {ev : Event} {req : SessionEstablishmentReq} {ueIp : Ipv4Addr}

/-- Sessions that own their rows have different ones. -/
theorem OwnRows.ofIp_ne (h : a.OwnRows host) {s t : UInt64} {session session' : SessionData}
    (hs : a.Live s session) (ht : a.Live t session') (hne : s ≠ t) :
    SessionKey.ofIp host.endian session.ueIp ≠ .ofIp host.endian session'.ueIp := by
  intro heq
  obtain ⟨info, hrow, hseid⟩ := h s session hs
  obtain ⟨info', hrow', hseid'⟩ := h t session' ht
  rw [heq] at hrow
  have hinfo : info = info' := Option.some.inj (hrow.symm.trans hrow')
  exact hne (by rw [← hseid, hinfo, hseid'])

/-- Rows of other addresses survive the inserts; a row of this address is the new SEID's. -/
theorem OwnRows.of_installed {w' : World} (h : a.OwnRows host)
    (hin : Installed host.endian ueIp req.cpSeid a.world w') {s : UInt64} {session : SessionData}
    (hlive : a.Live s session) (hnew : s ≠ a.srv.nextSeid → session.ueIp ≠ ueIp) :
    ∃ info, w'.maps.sessionMap.lookup (.ofIp host.endian session.ueIp) = some info ∧
      info.seid = s := by
  obtain ⟨info, hrow, hseid⟩ := h s session hlive
  obtain ⟨info', hseid', hins | ⟨-, heq⟩⟩ := hin.sessionMap
  · rw [BoundedTable.lookup_of_insert hins]
    split_ifs with hk
    · refine ⟨info', rfl, ?_⟩
      by_contra hne
      rw [hseid'] at hne
      exact hnew (Ne.symm hne) (SessionKey.ofIp_inj _ hk)
    · exact ⟨info, hrow, hseid⟩
  · rw [heq]
    exact ⟨info, hrow, hseid⟩

/-- Under `NewAddress` the rows stay with their sessions. -/
theorem OwnRows.step (h : a.OwnRows host) (hg : a.NewAddress ev) :
    (a.step host ev).OwnRows host := by
  have hmove := a.step_move host ev
  generalize a.step host ev = a' at hmove ⊢
  intro s session hlive
  cases hmove with
  | steady hw ho hl hest =>
    obtain ⟨session', hlive', hue, -⟩ := hw.session_some hlive
    obtain ⟨info, hrow, hseid⟩ := h s session' hlive'
    obtain ⟨info', hrow', hseid'⟩ := hw.sessionRow_kept hrow
    rw [← hue]
    exact ⟨info', hrow', hseid'.trans hseid⟩
  | heartbeat recvTs hhb hest hw ho hl
  | setup req hset hest hw ho hl
  | refused req assoc hest hnone hw ho hl =>
    rw [Live, Audit.srv, hw] at hlive
    rw [Audit.maps, hw]
    exact h s session hlive
  | interrupted req assoc ueIp gnbInfo hest hue hgnb hinst ho hl =>
    have hin := installed hinst
    rw [Live, Audit.srv, hin.sessions] at hlive
    exact h.of_installed hin hlive (hg _ (admission_of hest hue hgnb) s session hlive)
  | established req assoc ueIp gnbInfo w' hest hue hgnb hinst hw ho hl =>
    have hin := installed hinst
    rw [Live, Audit.srv, hw] at hlive
    rw [Audit.maps, hw]
    have hlive' := (Table.lookup_insert_ite _ _ _ _).symm.trans hlive
    split_ifs at hlive' with hs
    · obtain rfl := Option.some.inj hlive'
      obtain ⟨info, hseid, hins⟩ := installed_row hinst
      exact ⟨info, (BoundedTable.lookup_of_insert hins _).trans (if_pos rfl), hseid.trans hs.symm⟩
    · rw [hin.sessions] at hlive'
      exact h.of_installed hin hlive' (hg _ (admission_of hest hue hgnb) s session hlive')
  | deleted seid session' assoc hest hdel hw ho hl =>
    obtain ⟨-, hlive', -, -⟩ := of_deletes hdel
    rw [Live, Audit.srv, hw] at hlive
    have hold := (Table.lookup_erase_ite _ _ _).symm.trans hlive
    split_ifs at hold with hs
    rw [Audit.maps, hw, sessionMap_removeRules, if_neg (h.ofIp_ne hold hlive' hs)]
    exact h s session hold

/-- An establishment for the address of a live session takes the row over. -/
theorem OwnRows.newAddress (h : a.OwnRows host) (h' : (a.step host ev).OwnRows host) :
    a.NewAddress ev := by
  intro adm hadm t session hlive hne hue
  obtain ⟨env, now, data, src, req, assoc, rfl, hest, hp, hgnb⟩ := of_admission hadm
  have hmove := a.step_move host (.datagram env now data src)
  generalize a.step host (.datagram env now data src) = a' at hmove h'
  -- the insert cannot fail: the row it overwrites is there
  have hwritten : ∀ {w' : World} {cpSeid : UInt64},
      Installed host.endian adm.ueIp cpSeid a.world w' →
      ∃ info, w'.maps.sessionMap.lookup (.ofIp host.endian adm.ueIp) = some info ∧
        info.seid = a.srv.nextSeid := by
    intro w' cpSeid hin
    obtain ⟨info, hrow, -⟩ := h t session hlive
    rw [hue] at hrow
    obtain ⟨info', hseid', hins | ⟨hnone, -⟩⟩ := hin.sessionMap
    · exact ⟨info', (BoundedTable.lookup_of_insert hins _).trans (if_pos rfl), hseid'⟩
    · have hsome := BoundedTable.insert_isSome_of_lookup (v := info') hrow
      rw [hnone] at hsome
      cases hsome
  have htaken : a'.Live t session →
      (∃ info, a'.maps.sessionMap.lookup (.ofIp host.endian adm.ueIp) = some info ∧
        info.seid = a.srv.nextSeid) → False := by
    rintro hlive' ⟨info, hrow, hseid⟩
    obtain ⟨info', hrow', hseid'⟩ := h' t session hlive'
    rw [hue] at hrow'
    have hinfo : info = info' := Option.some.inj (hrow.symm.trans hrow')
    exact hne (by rw [← hseid', ← hinfo, hseid])
  cases hmove with
  | steady hw ho hl hnone =>
    cases (hnone env now data src rfl).symm.trans hest
  | heartbeat recvTs hhb hnone hw ho hl
  | setup req' hset hnone hw ho hl
  | deleted seid session' assoc' hnone hdel hw ho hl =>
    cases hnone.symm.trans hest
  | refused req' assoc' hest' hnone hw ho hl =>
    obtain ⟨rfl, rfl⟩ := Prod.mk.inj (Option.some.inj (hest'.symm.trans hest))
    rcases hnone with hnone | hnone
    · cases hnone.symm.trans hp
    · rw [hnone] at hgnb
      cases hgnb
  | interrupted req' assoc' ueIp' gnbInfo hest' hue' hgnb' hinst ho hl =>
    obtain ⟨rfl, rfl⟩ := Prod.mk.inj (Option.some.inj (hest'.symm.trans hest))
    obtain rfl : ueIp' = adm.ueIp := Option.some.inj (hue'.symm.trans hp)
    have hin := installed hinst
    refine htaken ?_ (hwritten hin)
    rw [Live, Audit.srv, hin.sessions]
    exact hlive
  | established req' assoc' ueIp' gnbInfo w' hest' hue' hgnb' hinst hw ho hl =>
    obtain ⟨rfl, rfl⟩ := Prod.mk.inj (Option.some.inj (hest'.symm.trans hest))
    obtain rfl : ueIp' = adm.ueIp := Option.some.inj (hue'.symm.trans hp)
    have hin := installed hinst
    refine htaken ?_ ?_
    · rw [Live, Audit.srv, hw]
      refine ((Table.lookup_insert_ite _ _ _ _).trans (if_neg hne)).trans ?_
      rw [hin.sessions]
      exact hlive
    · obtain ⟨info, hrow, hseid⟩ := hwritten hin
      rw [Audit.maps, hw]
      exact ⟨info, hrow, hseid⟩

end Step

/-- **Row ownership.**  Every live session owns its SESSION_MAP row in all states of a run exactly
when no establishment of the run writes the row of another live session's address. -/
theorem always_ownRows_iff (host : Host) (b : Boot) (evs : List Event) :
    Always (step host) (OwnRows host) (init b) evs ↔ Meets (step host) NewAddress (init b) evs :=
  always_iff_meets (fun _ _ h hg => h.step hg) (fun _ _ h h' => h.newAddress h')
    (fun _ _ hlive => by cases hlive)

open SmfSim in
/-- Two simulators hand out the same address: the row of session 1 now carries SEID 2. -/
theorem not_ownRows_shared_address :
    ¬ (after host boot [setup smfA 1, setup smfB 1, establish smfA 1 ue1,
      establish smfB 2 ue1]).OwnRows host := by
  intro h
  obtain ⟨info, hrow, hseid⟩ := h 1 ⟨ue1, 1000, gnb, 1⟩ (by decide +kernel)
  have hother : ((after host boot [setup smfA 1, setup smfB 1, establish smfA 1 ue1,
      establish smfB 2 ue1]).maps.sessionMap.lookup (.ofIp host.endian ue1)).map (·.seid) =
      some 2 := by decide +kernel
  rw [hrow, Option.map_some, hseid] at hother
  exact absurd hother (by decide)

end Audit

end UpfEdge
