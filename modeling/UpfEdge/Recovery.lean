import UpfEdge.Ownership
import UpfEdge.Persistence
import UpfEdge.Restart

/-!
# After a restart of the UPF

`pfcp_server::run` puts the sessions of the store back into the session table, and nothing else: the
counters start at their first values, the associations and the eBPF maps are empty.

So a new session may get the SEID or the TEID of a restored one.  `Lifetime` keeps a ledger of the
TEIDs the UPF has allocated to its live sessions, and `fresh_of_clear` says that identifiers are
fresh in every run that keeps clear of the restored ones and issues fewer than `2 ^ 32`.

And a restored session has no row in SESSION_MAP, and stands in no association's table: its SMF can
set up again, but whatever it then asks for the session is refused (`restored_unmanageable`).
-/

namespace UpfEdge

open Lib Pfcp Server SessionStore

/-! ### Fresh identifiers -/

/-- The TEID the UPF has allocated to a session, in an earlier lifetime or in this one. -/
inductive Allocation where
  | restored (teid : UInt32)
  | issued (teid : UInt32)
  deriving DecidableEq, Repr

def Allocation.teid : Allocation → UInt32
  | .restored t => t
  | .issued t => t

/-- The UPF since its start, and the TEIDs of its sessions.  The session table does not keep them: a
modification writes the gNB's TEID over the entry's. -/
structure Lifetime where
  audit : Audit
  teids : Table UInt64 Allocation

namespace Lifetime

abbrev srv (l : Lifetime) : PfcpServer := l.audit.srv

def start (b : Boot) (sessions : List (UInt64 × SessionData)) : Lifetime where
  audit := .restored b sessions
  teids := sessions.foldl (fun t p => t.insert p.1 (.restored p.2.teid)) ∅

def step (host : Host) (l : Lifetime) (ev : Event) : Lifetime where
  audit := l.audit.step host ev
  teids := if l.audit.Issues ev ∧ l.audit.answered host ev then
      l.teids.insert l.srv.nextSeid (.issued l.srv.nextTeid)
    else l.teids

/-- The Created PDRs of the establishment of an event. -/
def created (l : Lifetime) : Event → List (UInt16 × UInt32 × Ipv4Addr)
  | .datagram env _ data src =>
    match establishes env (received data) src l.audit.world with
    | some (req, _) => createdPdrs l.srv.n3Addr l.srv.nextTeid req.createPdrs
    | none => []
  | _ => []

/-- The SEID that the event gets is of no live session, and the TEID that a response returns in a
Created PDR is that of no other live session. -/
structure Fresh (host : Host) (l : Lifetime) (ev : Event) : Prop where
  seid : l.audit.Issues ev → l.srv.sessions.lookup l.srv.nextSeid = none
  teid : l.audit.answered host ev → ∀ c ∈ l.created ev,
    ∀ s, (l.srv.sessions.lookup s).isSome → s ≠ l.srv.nextSeid →
      (l.teids.lookup s).map Allocation.teid ≠ some c.2.1

/-- If the event gets identifiers from the counters, they have not come round, and they are of no
live session that was restored. -/
def Clear (l : Lifetime) (ev : Event) : Prop :=
  l.audit.Issues ev → l.srv.nextSeid.toNat ≤ 2 ^ 32 ∧
    ∀ s t, (l.srv.sessions.lookup s).isSome → l.teids.lookup s = some (.restored t) →
      s ≠ l.srv.nextSeid ∧ t ≠ l.srv.nextTeid

/-- What the counters have given out.  They started at 1 and 1000 and have moved together. -/
structure Allocated (l : Lifetime) : Prop where
  next_pos : 1 ≤ l.srv.nextSeid.toNat
  next_le : l.srv.nextSeid.toNat ≤ 2 ^ 32 + 1
  nextTeid : l.srv.nextTeid.toNat = (l.srv.nextSeid.toNat + 999) % 2 ^ 32
  live : ∀ s, (l.srv.sessions.lookup s).isSome →
    (∃ t, l.teids.lookup s = some (.restored t)) ∨
      ∃ t, l.teids.lookup s = some (.issued t) ∧ 1 ≤ s.toNat ∧
        s.toNat < l.srv.nextSeid.toNat ∧ t.toNat = (s.toNat + 999) % 2 ^ 32

section Step

variable {host : Host} {l : Lifetime} {ev : Event}

/-- The ledger starts with the sessions. -/
theorem lookup_foldl_restored (s : UInt64) : ∀ (sessions : List (UInt64 × SessionData))
    (t : Table UInt64 SessionData) (t' : Table UInt64 Allocation),
    (t'.lookup s = (t.lookup s).map fun data => .restored data.teid) →
    (sessions.foldl (fun t p => t.insert p.1 (.restored p.2.teid)) t').lookup s =
      ((sessions.foldl (fun t p => t.insert p.1 p.2) t).lookup s).map
        fun data => Allocation.restored data.teid
  | [], _, _, h => h
  | p :: sessions, t, t', h => by
    rw [List.foldl_cons, List.foldl_cons]
    refine lookup_foldl_restored s sessions _ _ ?_
    rw [Table.lookup_insert_ite, Table.lookup_insert_ite]
    split_ifs
    · rfl
    · exact h

theorem start_allocated (b : Boot) (sessions : List (UInt64 × SessionData)) :
    Allocated (start b sessions) where
  next_pos := show 1 ≤ (1 : UInt64).toNat by decide
  next_le := show (1 : UInt64).toNat ≤ 2 ^ 32 + 1 by decide
  nextTeid := show (1000 : UInt32).toNat = ((1 : UInt64).toNat + 999) % 2 ^ 32 by decide
  live s hs := by
    obtain ⟨data, hdata⟩ := Option.isSome_iff_exists.mp hs
    have hledger := lookup_foldl_restored s sessions ∅ ∅ rfl
    refine .inl ⟨data.teid, hledger.trans ?_⟩
    exact congrArg (Option.map _) hdata

/-- The counters after they have given out a SEID and a TEID. -/
theorem Allocated.next_succ (h : Allocated l) (hle : l.srv.nextSeid.toNat ≤ 2 ^ 32) :
    (l.srv.nextSeid + 1).toNat = l.srv.nextSeid.toNat + 1 ∧
      (l.srv.nextTeid + 1).toNat = (l.srv.nextSeid.toNat + 1 + 999) % 2 ^ 32 := by
  have hone64 : (1 : UInt64).toNat = 1 := rfl
  have hone32 : (1 : UInt32).toNat = 1 := rfl
  rw [UInt64.toNat_add, UInt32.toNat_add, h.nextTeid, hone64, hone32]
  constructor <;> omega

/-- A session that was live before stays what it was as the counters move on. -/
theorem Allocated.live_mono (h : Allocated l) {l' : Lifetime} {s : UInt64}
    (hs : (l.srv.sessions.lookup s).isSome) (hteids : l'.teids.lookup s = l.teids.lookup s)
    (hle : l.srv.nextSeid.toNat ≤ l'.srv.nextSeid.toNat) :
    (∃ t, l'.teids.lookup s = some (.restored t)) ∨
      ∃ t, l'.teids.lookup s = some (.issued t) ∧ 1 ≤ s.toNat ∧
        s.toNat < l'.srv.nextSeid.toNat ∧ t.toNat = (s.toNat + 999) % 2 ^ 32 := by
  rw [hteids]
  rcases h.live s hs with hold | ⟨t, ht, hpos, hlt, heq⟩
  · exact .inl hold
  · exact .inr ⟨t, ht, hpos, by omega, heq⟩

/-- An event that takes nothing from the counters and makes no session live. -/
theorem Allocated.of_kept (h : Allocated l) {l' : Lifetime} (hteids : l'.teids = l.teids)
    (hseid : l'.srv.nextSeid = l.srv.nextSeid) (hteid : l'.srv.nextTeid = l.srv.nextTeid)
    (hlive : ∀ s, (l'.srv.sessions.lookup s).isSome → (l.srv.sessions.lookup s).isSome) :
    Allocated l' where
  next_pos := by rw [hseid]; exact h.next_pos
  next_le := by rw [hseid]; exact h.next_le
  nextTeid := by rw [hseid, hteid]; exact h.nextTeid
  live s hs := h.live_mono (hlive s hs) (by rw [hteids]) (by rw [hseid])

/-- An event that takes a SEID and a TEID. -/
theorem Allocated.of_issued (h : Allocated l) {l' : Lifetime}
    (hle : l.srv.nextSeid.toNat ≤ 2 ^ 32) (hseid : l'.srv.nextSeid = l.srv.nextSeid + 1)
    (hteid : l'.srv.nextTeid = l.srv.nextTeid + 1)
    (hlive : ∀ s, (l'.srv.sessions.lookup s).isSome →
      (s = l.srv.nextSeid ∧ l'.teids.lookup s = some (.issued l.srv.nextTeid)) ∨
        (l.srv.sessions.lookup s).isSome ∧ l'.teids.lookup s = l.teids.lookup s) :
    Allocated l' := by
  obtain ⟨hnext, hnext'⟩ := h.next_succ hle
  have hpos := h.next_pos
  refine ⟨?_, ?_, ?_, fun s hs => ?_⟩
  · rw [hseid, hnext]
    omega
  · rw [hseid, hnext]
    omega
  · rw [hseid, hteid, hnext, hnext']
  · rcases hlive s hs with ⟨rfl, hnew⟩ | ⟨hold, hsame⟩
    · refine .inr ⟨_, hnew, hpos, ?_, h.nextTeid⟩
      rw [hseid, hnext]
      omega
    · refine h.live_mono hold hsame ?_
      rw [hseid, hnext]
      omega

theorem step_teids_of_not (h : ¬ (l.audit.Issues ev ∧ l.audit.answered host ev)) :
    (l.step host ev).teids = l.teids := if_neg h

theorem step_teids_of (hiss : l.audit.Issues ev) (hanswer : l.audit.answered host ev = true) :
    (l.step host ev).teids = l.teids.insert l.srv.nextSeid (.issued l.srv.nextTeid) :=
  if_pos ⟨hiss, hanswer⟩

theorem Allocated.step (h : Allocated l) (hc : l.Clear ev) : Allocated (l.step host ev) := by
  cases step_booked host l.audit ev with
  | idle hiss hmod hs ht hseid hteid =>
    refine h.of_kept (step_teids_of_not fun hi => hiss hi.1) hseid hteid fun s hlive => ?_
    rw [← hs]
    exact hlive
  | refused hiss hmod hanswer hs ht hseid hteid =>
    refine h.of_issued (hc hiss).1 hseid hteid fun s hlive => .inr ⟨?_, ?_⟩
    · rw [← hs]
      exact hlive
    · rw [step_teids_of_not fun hi => by rw [hanswer] at hi; cases hi.2]
  | established hiss hmod hanswer data hdata hs ht hseid hteid =>
    refine h.of_issued (hc hiss).1 hseid hteid fun s hlive => ?_
    have hlive' : ((l.srv.sessions.insert l.srv.nextSeid data).lookup s).isSome := by
      rw [← hs]
      exact hlive
    rw [step_teids_of hiss hanswer, Table.lookup_insert_ite]
    rw [Table.lookup_insert_ite] at hlive'
    by_cases heq : s = l.srv.nextSeid
    · exact .inl ⟨heq, if_pos heq⟩
    · rw [if_neg heq] at hlive'
      exact .inr ⟨hlive', if_neg heq⟩
  | deleted hiss hmod seid hs ht hseid hteid =>
    refine h.of_kept (step_teids_of_not fun hi => hiss hi.1) hseid hteid fun s hlive => ?_
    have hlive' : ((l.srv.sessions.erase seid).lookup s).isSome := by
      rw [← hs]
      exact hlive
    rw [Table.lookup_erase_ite] at hlive'
    split_ifs at hlive'
    · cases hlive'
    · exact hlive'
  | modified hiss seid session req hmod hold hs ht hseid hteid =>
    refine h.of_kept (step_teids_of_not fun hi => hiss hi.1) hseid hteid fun s hlive => ?_
    have hlive' := hlive
    rw [show (l.step host ev).srv.sessions.lookup s = _ from hs s] at hlive'
    split_ifs at hlive' with heq
    · rw [heq]
      exact Option.isSome_iff_exists.mpr ⟨_, hold⟩
    · exact hlive'

/-- A Created PDR carries the TEID that the counter stands at. -/
theorem mem_created {c : UInt16 × UInt32 × Ipv4Addr} (h : c ∈ l.created ev) :
    l.audit.Issues ev ∧ c.2.1 = l.srv.nextTeid := by
  cases ev with
  | snapshot | report | uplink | downlink => cases h
  | datagram env now data src =>
    unfold created at h
    simp only at h
    split at h
    · next req assoc hest =>
      obtain ⟨pdr, -, rfl⟩ := List.mem_map.mp h
      exact ⟨Audit.Issues.of_establishes hest, rfl⟩
    · cases h

theorem Allocated.fresh (h : Allocated l) (hc : l.Clear ev) : l.Fresh host ev where
  seid hiss := by
    refine Option.not_isSome_iff_eq_none.mp fun hlive => ?_
    rcases h.live _ hlive with ⟨t, ht⟩ | ⟨t, -, -, hlt, -⟩
    · exact ((hc hiss).2 _ t hlive ht).1 rfl
    · omega
  teid hanswer c hmem s hlive hne heq := by
    obtain ⟨hiss, hteid⟩ := mem_created hmem
    rw [hteid] at heq
    obtain ⟨hle, hclear⟩ := hc hiss
    rcases h.live s hlive with ⟨t, ht⟩ | ⟨t, ht, hpos, hlt, hval⟩
    · rw [ht, Option.map_some, Option.some.injEq] at heq
      exact (hclear s t hlive ht).2 heq
    · -- Two TEIDs of this lifetime: fewer than `2 ^ 32` lie between them.
      rw [ht, Option.map_some, Option.some.injEq] at heq
      have hnext := h.nextTeid
      rw [← heq] at hnext
      change t.toNat = _ at hnext
      omega

end Step

/-- **Fresh identifiers.**  Whatever sessions were restored, identifiers are fresh in every run that
keeps clear of those that are still live, and in which the counters do not come round. -/
theorem fresh_of_clear (host : Host) (b : Boot) (sessions : List (UInt64 × SessionData))
    (evs : List Event) (h : Meets (step host) Clear (start b sessions) evs) :
    Meets (step host) (Fresh host) (start b sessions) evs :=
  h.of_inv (fun _ _ hI hc => hI.step hc) (fun _ _ hI hc => hI.fresh hc) (start_allocated b sessions)

/-- `Clear` is a matter of the entries of the ledger. -/
theorem Clear.of_entries {l : Lifetime} {ev : Event} (hle : l.srv.nextSeid.toNat ≤ 2 ^ 32)
    (h : ∀ x ∈ l.teids.entries, x.1 ≠ l.srv.nextSeid ∧ x.2 ≠ .restored l.srv.nextTeid) :
    l.Clear ev := by
  refine fun _ => ⟨hle, fun s t _ ht => ?_⟩
  obtain ⟨hs, halloc⟩ := h _ (Table.lookup_eq_some.mp ht)
  exact ⟨hs, fun heq => halloc (by rw [heq])⟩

section Sim

open SmfSim

/-- A session of an earlier lifetime with high identifiers, and two new ones. -/
theorem fresh_of_clear_sim :
    Meets (step host) (Fresh host) (start boot [(100, ⟨ue2, 5000, gnb, 7⟩)])
      [setup smfA 1, establish smfA 1 ue1, establish smfA 2 ue1] := by
  refine fresh_of_clear _ _ _ _ ⟨?_, ?_, ?_, trivial⟩
  · exact .of_entries (by decide +kernel) (by decide +kernel)
  · exact .of_entries (by decide +kernel) (by decide +kernel)
  · exact .of_entries (by decide +kernel) (by decide +kernel)

/-- A session with the identifiers of the first session of any lifetime: the next one gets them
too. -/
theorem not_fresh_first_session :
    ¬ Meets (step host) (Fresh host) (start boot [(1, ⟨ue2, 1000, gnb, 1⟩)])
      [setup smfA 1, establish smfA 1 ue1] := by
  rintro ⟨-, hfresh, -⟩
  have hseid := hfresh.seid (by decide +kernel)
  revert hseid
  decide +kernel

end Sim

end Lifetime

/-! ### Restored sessions -/

/-- Where no association has a session, every modification and every deletion is refused. -/
theorem update_refused {e : Endian} {env : Env} {data : Bytes} {src : SocketAddr} {w : World}
    (h : isUpdate data) (hempty : ∀ k x, w.srv.associations.lookup k = some x → x.sessions = ∅) :
    ∃ err, (handleMessage e env data src w).1 = .error err := by
  have hunowned : ∀ found, findAssociation env w.srv src = some found →
      ∀ cpSeid, (found.2.sessions.lookup cpSeid).isSome = false := by
    intro found hfind cpSeid
    rw [hempty _ _ (findAssociation_some hfind).1]
    rfl
  unfold isUpdate at h
  unfold handleMessage
  cases hd : PfcpHeader.decode data with
  | error err => exact ⟨_, rfl⟩
  | ok p =>
    obtain ⟨header, body⟩ := p
    simp only [hd, decide_eq_true_eq] at h
    simp only
    rcases h with ht | ht
    · rw [dispatch_modification ht]
      have hmod : modifies env header body src w = none := by
        refine Option.eq_none_iff_forall_ne_some.mpr fun found hfound => ?_
        obtain ⟨seid, session, req⟩ := found
        obtain ⟨-, -, -, -, assoc, hfind, hown⟩ := modifies_eq_some.mp hfound
        rw [hunowned assoc hfind] at hown
        cases hown
      obtain ⟨err, heq⟩ : ∃ err, handleSessionModification e env header body src w =
        (.error err, w) := modification_of_none hmod
      exact ⟨err, by rw [heq]⟩
    · rw [dispatch_deletion ht]
      have hdel : deletes env data src w = none := by
        refine Option.eq_none_iff_forall_ne_some.mpr fun found hfound => ?_
        obtain ⟨seid, session, assoc⟩ := found
        obtain ⟨-, -, hfind, hown⟩ := of_deletes hfound
        rw [hunowned assoc hfind] at hown
        cases hown
      obtain ⟨err, heq⟩ : ∃ err, handleSessionDeletion e env header src w = (.error err, w) :=
        deletion_of_none hd ht hdel
      exact ⟨err, by rw [heq]⟩

namespace Audit

/-- The data plane knows the UE of the session. -/
def HasRow (host : Host) (a : Audit) (s : UInt64) (data : SessionData) : Prop :=
  ∃ info, a.maps.sessionMap.lookup (.ofIp host.endian data.ueIp) = some info ∧ info.seid = s

section Restored

variable {host : Host} {b : Boot} {order : IterOrder String} {r : Redis} {s : UInt64}
  {data : SessionData}

/-- What the store has is live. -/
theorem startedOn_live (hr : Ours r) (hs : (s, data) ∈ loadAll order r) :
    (startedOn b order r).Live s data :=
  (restore_loadAll hr order rfl s).trans ((mem_loadAll hr order).mp hs)

/-- The restore writes to no map. -/
theorem startedOn_not_hasRow : ¬ (startedOn b order r).HasRow host s data := by
  rintro ⟨info, hinfo, -⟩
  cases hinfo

/-- An Association Setup after the restore makes an association without sessions. -/
theorem startedOn_refused {env env' : Env} {now now' : Instant} {msg request : Bytes}
    {src : SocketAddr} {req : AssociationSetupReq} (hreq : setupOf (received msg) = some req)
    (hupdate : isUpdate (received request)) :
    ∃ err, (receive host env' now' request src
      ((startedOn b order r).step host (.datagram env now msg src)).world).1 = .error err := by
  have hfresh : isDuplicateSetup req (touched now (startedOn b order r).world).srv = false := rfl
  have hw : ((startedOn b order r).step host (.datagram env now msg src)).world = _ :=
    handleMessage_of_setup hreq hfresh
  refine update_refused hupdate fun k x hx => ?_
  rw [hw] at hx
  have hx' := (Table.lookup_insert_ite _ _ _ _).symm.trans hx
  split_ifs at hx'
  · obtain rfl := Option.some.inj hx'
    rfl
  · cases hx'

end Restored

/-- **Restored sessions.**  Every session that is restored is live, but the data plane does not know
it; and after an Association Setup, whatever its source asks for the session is refused. -/
theorem restored_unmanageable (host : Host) (b : Boot) (order : IterOrder String)
    (past : List StoreTask) (s : UInt64) (data : SessionData)
    (hs : (s, data) ∈ loadAll order (performAll ∅ past)) :
    let a := startedOn b order (performAll ∅ past)
    a.Live s data ∧ ¬ a.HasRow host s data ∧
      ∀ env now msg src req, setupOf (received msg) = some req →
        ∀ env' now' request, isUpdate (received request) →
          targetSeid (received request) a.world = some s →
          ∃ err, (receive host env' now' request src
            (a.step host (.datagram env now msg src)).world).1 = .error err := by
  intro a
  refine ⟨startedOn_live (ours_empty.performAll past) hs, startedOn_not_hasRow, ?_⟩
  intro env now msg src req hreq env' now' request hupdate _
  exact startedOn_refused hreq hupdate

section Sim

open SmfSim

/-- A lifetime of the UPF in which a simulator establishes a session. -/
def firstLife : Audit :=
  run (step host) (startedOn boot .asStored ∅) [setup smfA 1, establish smfA 1 ue1]

theorem mem_loadAll_firstLife :
    (1, ⟨ue1, 1000, gnb, 1⟩) ∈ loadAll .asStored (performAll ∅ firstLife.world.tasks) := by
  have hlast : lastTask 1 firstLife.world.tasks = some (.save 1 ⟨ue1, 1000, gnb, 1⟩) := by
    decide +kernel
  refine (mem_loadAll (ours_empty.performAll _) .asStored).mpr ?_
  rw [stored_performAll, hlast]
  rfl

/-- The UPF restarts with that session; the simulator sets up again and asks for a modification. -/
theorem restored_unmanageable_modification :
    let a := startedOn boot .asStored (performAll ∅ firstLife.world.tasks)
    a.Live 1 ⟨ue1, 1000, gnb, 1⟩ ∧ ¬ a.HasRow host 1 ⟨ue1, 1000, gnb, 1⟩ ∧
      ∃ err, (receive host env 0 (tunnelModification 1 gnb) (peer smfA)
        (a.step host (setup smfA 2)).world).1 = .error err := by
  intro a
  obtain ⟨hlive, hrow, hrefused⟩ := restored_unmanageable host boot .asStored
    firstLife.world.tasks 1 _ mem_loadAll_firstLife
  exact ⟨hlive, hrow, hrefused env 0 _ _ ⟨smfA, 2⟩ (by decide +kernel) env 0 _ (by decide +kernel)
    (by decide +kernel)⟩

/-- Neither is the session in SESSION_MAP, nor is its deletion accepted. -/
theorem not_manageable_deletion : ∃ data,
    (1, data) ∈ loadAll .asStored (performAll ∅ firstLife.world.tasks) ∧
      let a := startedOn boot .asStored (performAll ∅ firstLife.world.tasks)
      ¬ a.HasRow host 1 data ∧ ∃ err, (receive host env 0 (sessionDeletion 1) (peer smfA)
        (a.step host (setup smfA 2)).world).1 = .error err := by
  have hsetup : setupOf (received (associationSetup smfA 2)) = some ⟨smfA, 2⟩ := by decide +kernel
  exact ⟨_, mem_loadAll_firstLife, startedOn_not_hasRow,
    startedOn_refused hsetup (by decide +kernel)⟩

end Sim

end Audit

end UpfEdge
