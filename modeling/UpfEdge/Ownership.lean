import UpfEdge.Ledger
import UpfEdge.SmfSim

/-!
# Exclusive ownership

A modification or a deletion is accepted when the association of its source has a session under the
SEID that the session's SMF chose.  That is not the question whether it is the association that
established the session: SMFs choose these SEIDs independently of each other, and a UE address named
twice makes two sessions share a SESSION_MAP row.

`Separate` is the condition under which the two questions have the same answer: an establishment
uses no such SEID and no UE address of a session that another node has established.  Along every run
of such establishments, no message from one association's address changes anything of a session that
the node of an association with another address established (`Exclusive`), whatever address a node
had before and whoever has had its address since.
-/

namespace UpfEdge

open Lib Pfcp Server

/-- Every part of a session is the same: its entry, the row of its UE address, its rules. -/
structure SameSession (e : Endian) (s : UInt64) (session : SessionData) (w w' : World) : Prop where
  entry : w'.srv.sessions.lookup s = w.srv.sessions.lookup s
  row : w'.maps.sessionMap.lookup (.ofIp e session.ueIp) =
    w.maps.sessionMap.lookup (.ofIp e session.ueIp)
  rules : SameRules s w w'

/-- A Session Modification or a Session Deletion Request. -/
def isUpdate (data : Bytes) : Bool :=
  match PfcpHeader.decode data with
  | .ok (header, _) =>
    header.msgType = pfcpSessionModificationReq ∨ header.msgType = pfcpSessionDeletionReq
  | .error _ => false

namespace Audit

/-- No update from the address of one association changes a session that the node of an association
with another address established; an update for that session is answered with an error. -/
def Exclusive (host : Host) (a : Audit) : Prop :=
  ∀ kA A kB B, a.srv.associations.lookup kA = some A → a.srv.associations.lookup kB = some B →
    A.peerAddr ≠ B.peerAddr → ∀ s session, a.Live s session → a.EstablishedBy s A →
    ∀ env now data, isUpdate (received data) →
      SameSession host.endian s session a.world
          (receive host env now data B.peerAddr a.world).2 ∧
        (targetSeid (received data) a.world = some s →
          ∃ err, (receive host env now data B.peerAddr a.world).1 = .error err)

/-- An establishment chooses a SEID that no association of another node has and no session
established by another node carries, and a UE address that none of those sessions has. -/
def Separate (a : Audit) (ev : Event) : Prop :=
  ∀ adm ∈ a.admission ev,
    (∀ x ∈ a.srv.associations.entries, x.1 ≠ adm.assoc.nodeId →
      x.2.sessions.lookup adm.cpSeid = none) ∧
    ∀ x ∈ a.srv.sessions.entries, ∀ o ∈ a.origin.lookup x.1, o.nodeId ≠ adm.assoc.nodeId →
      x.2.cpSeid ≠ adm.cpSeid ∧ x.2.ueIp ≠ adm.ueIp

instance (a : Audit) (ev : Event) : Decidable (a.Separate ev) :=
  inferInstanceAs (Decidable (∀ adm ∈ a.admission ev, _))

/-- What `Separate` establishments keep: the SEID of a session is in no table of another node's
association, and sessions established by different nodes have different UE addresses. -/
structure Separated (a : Audit) : Prop where
  cpSeid : ∀ {s session o k assoc}, a.Live s session → a.origin.lookup s = some o →
    a.srv.associations.lookup k = some assoc → k ≠ o.nodeId →
    assoc.sessions.lookup session.cpSeid = none
  ueIp : ∀ {s session o s' session' o'}, a.Live s session → a.origin.lookup s = some o →
    a.Live s' session' → a.origin.lookup s' = some o' → o.nodeId ≠ o'.nodeId →
    session.ueIp ≠ session'.ueIp

section Step

variable {host : Host} {n : ℕ} {a a' : Audit} {ev : Event}

theorem init_separated (b : Boot) : Separated (init b) where
  cpSeid h := by cases h
  ueIp h := by cases h

/-- Sessions that were there with their origins, and tables that only shrank. -/
theorem Separated.of_le (h : Separated a)
    (hlive : ∀ {s session}, a'.Live s session → ∃ old, a.Live s old ∧ old.ueIp = session.ueIp ∧
      old.cpSeid = session.cpSeid)
    (horigin : ∀ {s session}, a.Live s session → a'.origin.lookup s = a.origin.lookup s)
    (hassoc : ∀ {k assoc'}, a'.srv.associations.lookup k = some assoc' →
      (∀ c, assoc'.sessions.lookup c = none) ∨
        ∃ assoc, a.srv.associations.lookup k = some assoc ∧
          ∀ c, assoc.sessions.lookup c = none → assoc'.sessions.lookup c = none) :
    Separated a' := by
  constructor
  · intro s session o k assoc' hs ho hk hne
    obtain ⟨old, hold, -, hcp⟩ := hlive hs
    rw [horigin hold] at ho
    rcases hassoc hk with hempty | ⟨assoc, hk', hshrink⟩
    · exact hempty _
    · rw [← hcp]
      exact hshrink _ (h.cpSeid hold ho hk' hne)
  · intro s session o s' session' o' hs ho hs' ho' hne
    obtain ⟨old, hold, hue, -⟩ := hlive hs
    obtain ⟨old', hold', hue', -⟩ := hlive hs'
    rw [horigin hold] at ho
    rw [horigin hold'] at ho'
    rw [← hue, ← hue']
    exact h.ueIp hold ho hold' ho' hne

/-- The session a `Separate` establishment registers joins the others. -/
theorem Separated.of_registered (h : Separated a)
    {adm : Admission} (hadm : a.admission ev = some adm) (hsep : a.Separate ev)
    (session : SessionData)
    (hcp : session.cpSeid = adm.cpSeid) (hue : session.ueIp = adm.ueIp)
    (hlive : ∀ {s session'}, a'.Live s session' → (s = a.srv.nextSeid ∧ session' = session) ∨
      s ≠ a.srv.nextSeid ∧ a.Live s session')
    (hnew : a'.origin.lookup a.srv.nextSeid = some ⟨adm.assoc.nodeId, adm.src, adm.cpSeid⟩)
    (hold : ∀ {s}, s ≠ a.srv.nextSeid → a'.origin.lookup s = a.origin.lookup s)
    (hassoc : ∀ {k assoc'}, a'.srv.associations.lookup k = some assoc' →
      ∃ assoc, a.srv.associations.lookup k = some assoc ∧ assoc' = if k = adm.assoc.nodeId then
        { assoc with sessions := assoc.sessions.insert adm.cpSeid session } else assoc) :
    Separated a' := by
  obtain ⟨htables, hsessions⟩ := hsep adm hadm
  -- what the condition says of a session that was there, and where its own SEID is found
  have hother : ∀ {s session' o}, a.Live s session' → a.origin.lookup s = some o →
      o.nodeId ≠ adm.assoc.nodeId → session'.cpSeid ≠ adm.cpSeid ∧ session'.ueIp ≠ adm.ueIp :=
    fun hs ho hne => hsessions _ (Table.lookup_eq_some.mp hs) _ ho hne
  constructor
  · intro s session' o k assoc' hs ho hk hne
    obtain ⟨assoc, hk', rfl⟩ := hassoc hk
    rcases hlive hs with ⟨rfl, rfl⟩ | ⟨hsn, hs'⟩
    · obtain rfl := Option.some.inj (hnew.symm.trans ho)
      rw [if_neg hne, hcp]
      exact htables _ (Table.lookup_eq_some.mp hk') hne
    · rw [hold hsn] at ho
      have hnone := h.cpSeid hs' ho hk' hne
      split_ifs with hkn
      · rw [hkn] at hne
        rw [Table.lookup_insert_ite, if_neg (hother hs' ho hne.symm).1]
        exact hnone
      · exact hnone
  · intro s session₁ o s' session₂ o' hs ho hs' ho' hne
    rcases hlive hs with ⟨rfl, rfl⟩ | ⟨hsn, hs⟩
    · obtain rfl := Option.some.inj (hnew.symm.trans ho)
      rcases hlive hs' with ⟨rfl, rfl⟩ | ⟨hsn', hs'⟩
      · obtain rfl := Option.some.inj (hnew.symm.trans ho')
        exact absurd rfl hne
      · rw [hold hsn'] at ho'
        rw [hue]
        exact Ne.symm (hother hs' ho' (Ne.symm hne)).2
    · rw [hold hsn] at ho
      rcases hlive hs' with ⟨rfl, rfl⟩ | ⟨hsn', hs'⟩
      · obtain rfl := Option.some.inj (hnew.symm.trans ho')
        rw [hue]
        exact (hother hs ho hne).2
      · rw [hold hsn'] at ho'
        exact h.ueIp hs ho hs' ho' hne

/-- **`Separated` is kept** by every event whose establishment is `Separate`. -/
theorem Separated.step (hi : Issued n a) (h : Separated a) (hsep : a.Separate ev) :
    Separated (a.step host ev) := by
  have hmove := a.step_move host ev
  generalize a.step host ev = a' at hmove ⊢
  have hsame : ∀ {w : World}, a'.srv.associations = w.srv.associations →
      w.srv.associations = a.srv.associations → ∀ {k assoc'},
      a'.srv.associations.lookup k = some assoc' → (∀ c, assoc'.sessions.lookup c = none) ∨
        ∃ assoc, a.srv.associations.lookup k = some assoc ∧
          ∀ c, assoc.sessions.lookup c = none → assoc'.sessions.lookup c = none := by
    intro w hw hw' k assoc' hk
    rw [hw, hw'] at hk
    exact .inr ⟨assoc', hk, fun _ hc => hc⟩
  have hissued : ∀ {s session}, a.Live s session → a'.origin.lookup s = a.origin.lookup s := by
    intro s session hs
    refine origin_of_ne hmove ?_
    rintro rfl
    exact Nat.lt_irrefl _ (hi.live hs)
  cases hmove with
  | steady hw ho hl' hest =>
    refine h.of_le (fun hs => hw.session_some hs) (fun _ => by rw [ho]) ?_
    exact hsame (w := a.world) hw.associations rfl
  | heartbeat recvTs hhb hest hw ho hl' =>
    refine h.of_le (fun hs => ?_) (fun _ => by rw [ho]) fun {k assoc'} hk => ?_
    · rw [Live, Audit.srv, hw] at hs
      exact ⟨_, hs, rfl, rfl⟩
    · rw [Audit.srv, hw] at hk
      rcases lookup_heartbeatAssociations _ _ recvTs a.srv k with
        heq | ⟨assoc, recv, -, -, hold, -, hnew⟩
      · exact .inr ⟨assoc', heq.symm.trans hk, fun _ hc => hc⟩
      · left
        rw [← Option.some.inj (hnew.symm.trans hk)]
        exact fun _ => rfl
  | setup req hset hest hw ho hl' =>
    refine h.of_le (fun hs => ?_) (fun _ => by rw [ho]) fun {k assoc'} hk => ?_
    · rw [Live, Audit.srv, hw] at hs
      exact ⟨_, hs, rfl, rfl⟩
    · rw [Audit.srv, hw] at hk
      have hk' := (Table.lookup_insert_ite _ _ _ _).symm.trans hk
      split_ifs at hk'
      · left
        rw [← Option.some.inj hk']
        exact fun _ => rfl
      · exact .inr ⟨assoc', hk', fun _ hc => hc⟩
  | refused req assoc hest hnone hw ho hl' =>
    refine h.of_le (fun hs => ?_) hissued ?_
    · rw [Live, Audit.srv, hw] at hs
      exact ⟨_, hs, rfl, rfl⟩
    · exact hsame (w := a'.world) rfl (by rw [hw]; rfl)
  | interrupted req assoc ueIp gnbInfo hest hue hgnb hinst ho hl' =>
    have hin := installed hinst
    refine h.of_le (fun hs => ?_) hissued ?_
    · rw [Live, Audit.srv, hin.sessions] at hs
      exact ⟨_, hs, rfl, rfl⟩
    · exact hsame (w := a'.world) rfl hin.associations
  | established req assoc ueIp gnbInfo w' hest hue hgnb hinst hw ho hl' =>
    have hin := installed hinst
    refine h.of_registered (admission_of hest hue hgnb) hsep
      { ueIp, teid := a.srv.nextTeid, gnbIp := gnbInfo.peerAddr, cpSeid := req.cpSeid } rfl rfl
      (fun {s session'} hs => ?_) ?_ (fun hs => ?_) fun {j assoc'} hj => ?_
    · rw [Live, Audit.srv, hw] at hs
      have hs' := (Table.lookup_insert_ite _ _ _ _).symm.trans hs
      split_ifs at hs' with hsn
      · exact .inl ⟨hsn, (Option.some.inj hs').symm⟩
      · rw [hin.sessions] at hs'
        exact .inr ⟨hsn, hs'⟩
    · rw [ho]
      exact lookup_issued_self
    · rw [ho]
      exact lookup_issued_ne hs
    · rw [Audit.srv, hw] at hj
      obtain ⟨old, hold, heq⟩ :=
        Option.map_eq_some_iff.mp ((lookup_registerSession ..).symm.trans hj)
      rw [hin.associations] at hold
      exact ⟨old, hold, heq.symm⟩
  | deleted seid session assoc hest hdel hw ho hl' =>
    refine h.of_le (fun hs => ?_) (fun _ => by rw [ho]) fun {k assoc'} hk => ?_
    · rw [Live, Audit.srv, hw] at hs
      have hs' := (Table.lookup_erase_ite _ _ _).symm.trans hs
      split_ifs at hs'
      exact ⟨_, hs', rfl, rfl⟩
    · rw [Audit.srv, hw] at hk
      obtain ⟨old, hold, rfl⟩ :=
        Option.map_eq_some_iff.mp ((lookup_unregisterSession ..).symm.trans hk)
      refine .inr ⟨old, hold, fun c hc => ?_⟩
      split_ifs
      · exact (Table.lookup_erase_ite _ _ _).trans (by split_ifs <;> first | rfl | exact hc)
      · exact hc

/-! ### Updates -/

/-- An update is neither a node message nor an establishment. -/
theorem isUpdate_other (env : Env) {data : Bytes} (src : SocketAddr) (w : World)
    (h : isUpdate data) : heartbeatOf data = none ∧ freshSetup data w = none ∧
      establishes env data src w = none := by
  obtain ⟨header, body, hd, ht⟩ : ∃ header body, PfcpHeader.decode data = .ok (header, body) ∧
      (header.msgType = pfcpSessionModificationReq ∨
        header.msgType = pfcpSessionDeletionReq) := by
    unfold isUpdate at h
    split at h
    · exact ⟨_, _, ‹_›, by simpa using h⟩
    · cases h
  refine ⟨?_, freshSetup_eq_none hd ?_, establishes_eq_none hd ?_⟩
  · rcases ht with ht | ht <;> simp [heartbeatOf, hd, ht, pfcpHeartbeatReq,
      pfcpSessionModificationReq, pfcpSessionDeletionReq]
  · rcases ht with ht | ht <;> rw [ht] <;> decide
  · rcases ht with ht | ht <;> rw [ht] <;> decide

/-- Where `Separated` holds, ownership is exclusive. -/
theorem Separated.exclusive (hi : Issued (2 ^ 48) a) (hl : Ledger a) (h : Separated a) :
    a.Exclusive host := by
  rintro kA A kB B hA hB hne s session hs ⟨o, ho, hnode⟩ env now data hup
  obtain ⟨hhb, hset, hest⟩ := isUpdate_other env B.peerAddr a.world hup
  have hs48 : s.toNat < 2 ^ 48 := Nat.lt_of_lt_of_le (hi.live hs) hi.next_le
  rcases receive_cases host env now data B.peerAddr a.world with
    ⟨hw, herr⟩ | ⟨-, hnode⟩ | ⟨p, key, hest', -⟩ |
      ⟨t, session', assoc, htarget, ht, hfind, hown, hk⟩
  · refine ⟨?_, herr s⟩
    rw [hw]
    exact ⟨rfl, rfl, { SameRules.refl with }⟩
  · rcases hnode with hnode | hnode
    · exact absurd hhb hnode
    · exact absurd hset hnode
  · cases hest.symm.trans hest'
  · -- the session the update was accepted for was established by the node that has it in its table
    obtain ⟨hassoc, hpeer⟩ := findAssociation_some hfind
    obtain ⟨o', ho', -⟩ := hl.live ht
    have horigin : o'.nodeId = assoc.1 := by
      by_contra hne'
      have hnone := h.cpSeid ht ho' hassoc (Ne.symm hne')
      rw [hnone] at hown
      cases hown
    -- and that node is not `A`, whose association has another address
    have hdiff : o.nodeId ≠ o'.nodeId := by
      intro heq
      rw [hnode, horigin, hl.keyed hA] at heq
      rw [← heq, hA] at hassoc
      rw [Option.some.inj hassoc] at hne
      exact hne hpeer
    have hts : s ≠ t := by
      rintro rfl
      exact hdiff (by rw [Option.some.inj (ho.symm.trans ho')])
    have hkey : SessionKey.ofIp host.endian session.ueIp ≠ .ofIp host.endian session'.ueIp :=
      fun heq => h.ueIp hs ho ht ho' hdiff (SessionKey.ofIp_inj _ heq)
    have ht48 : t.toNat < 2 ^ 48 := Nat.lt_of_lt_of_le (hi.live ht) hi.next_le
    refine ⟨⟨hk.session s hts, hk.sessionRow _ hkey, hk.sameRules ht48 hs48 hts⟩, fun hts' => ?_⟩
    exact absurd (Option.some.inj (hts'.symm.trans htarget)) hts

end Step

/-- **Exclusive ownership.**  It holds in every state of a run whose establishments are `Separate`
and get SEIDs below `2 ^ 48`. -/
theorem always_exclusive (host : Host) (b : Boot) (evs : List Event)
    (hm : Meets (step host) (fun a ev => a.IssuesBelow (2 ^ 48) ev ∧ a.Separate ev) (init b) evs) :
    Always (step host) (Exclusive host) (init b) evs := by
  intro pre post hsplit
  rw [hsplit] at hm
  have hinv : Issued (2 ^ 48) (after host b pre) ∧ Ledger (after host b pre) ∧
      Separated (after host b pre) :=
    run_inv (P := fun a => Issued (2 ^ 48) a ∧ Ledger a ∧ Separated a)
      (fun a ev h hg => ⟨h.1.step (by decide) hg.1, h.2.1.step h.1, h.2.2.step h.1 hg.2⟩)
      ⟨init_issued (by decide) b, init_ledger b, init_separated b⟩ (meets_append.mp hm).1
  exact hinv.2.2.exclusive hinv.1 hinv.2.1

section Sim

open SmfSim

/-- A moves to another port after it has established a session, and B sets up from the address that
A had; they number their sessions differently. -/
def readdressed : List Event :=
  [setup smfA 1, establish smfA 1 ue1,
    .datagram env 0 (associationSetup smfA 2) (.v4 smfA 40000),
    .datagram env 0 (associationSetup smfB 1) (peer smfA),
    .datagram env 0 (sessionEstablishment 2 smfB ue2 gnb 0x80000001) (peer smfA)]

/-- They keep to themselves. -/
theorem always_exclusive_readdressed : Exclusive host (after host boot readdressed) :=
  always_exclusive host boot readdressed (by decide +kernel) _ [] (List.append_nil _).symm

/-- Both simulators number their first session 1: the second deletes the session of the first. -/
theorem not_exclusive_same_cpSeid :
    ¬ Exclusive host (after host boot [setup smfA 1, setup smfB 1, establish smfA 1 ue1,
      establish smfB 1 ue2]) := by
  intro h
  generalize hrun : after host boot [setup smfA 1, setup smfB 1, establish smfA 1 ue1,
    establish smfB 1 ue2] = a at h
  have hassoc : ∀ smf ∈ [smfA, smfB], (a.srv.associations.lookup smf).map
      (fun x => (x.nodeId, x.peerAddr)) = some (smf, peer smf) := by
    rw [← hrun]
    decide +kernel
  obtain ⟨A, hA, hA'⟩ := Option.map_eq_some_iff.mp (hassoc smfA (by simp))
  obtain ⟨B, hB, hB'⟩ := Option.map_eq_some_iff.mp (hassoc smfB (by simp))
  obtain ⟨hAnode, hApeer⟩ := Prod.mk.inj hA'
  obtain ⟨-, hBpeer⟩ := Prod.mk.inj hB'
  have hlive : a.Live 1 ⟨ue1, 1000, gnb, 1⟩ := by
    rw [← hrun]
    decide +kernel
  have horigin : a.origin.lookup 1 = some ⟨smfA, peer smfA, 1⟩ := by
    rw [← hrun]
    decide +kernel
  have hentry := (h smfA A smfB B hA hB (by rw [hApeer, hBpeer]; decide) 1 ⟨ue1, 1000, gnb, 1⟩ hlive
    ⟨_, horigin, hAnode.symm⟩ env 0 (sessionDeletion 1) (by decide +kernel)).1.entry
  have hgone : (receive host env 0 (sessionDeletion 1) (peer smfB)
      a.world).2.srv.sessions.lookup 1 = none := by
    rw [← hrun]
    decide +kernel
  rw [hBpeer, hgone] at hentry
  cases hentry.trans hlive

end Sim

end Audit

end UpfEdge
