import Mathlib.Data.Set.Function
import UpfEdge.Ledger
import UpfEdge.SmfSim

/-!
# The session table and the association tables

A live session is in two tables: under its local SEID in the session table, and under the SEID its
SMF chose in the table of its association.  `Agree` says that the two describe the same sessions, as
a bijection, and that the SMF of every live session can still reach it.

While no Recovery Time Stamp changes and each source sets up one association (`OneSetup`), `Agree`
holds in every state of a run exactly when no accepted establishment uses a SEID that its own
association already has, and no accepted deletion comes from another SMF (`Orderly`).
-/

namespace UpfEdge

open Lib Pfcp Server

namespace Audit

/-! ### The statement -/

def liveSeids (a : Audit) : Set UInt64 := {s | (a.srv.sessions.lookup s).isSome}

/-- The Node ID of the association that established a session, and the SEID its SMF chose. -/
def ownerPair (a : Audit) (s : UInt64) : Ipv4Addr × UInt64 :=
  (((a.origin.lookup s).map (·.nodeId)).getD .unspecified,
    ((a.srv.sessions.lookup s).map (·.cpSeid)).getD 0)

/-- The pairs that the association tables hold. -/
def tablePairs (a : Audit) : Set (Ipv4Addr × UInt64) :=
  {p | ∃ assoc, a.srv.associations.lookup p.1 = some assoc ∧ (assoc.sessions.lookup p.2).isSome}

/-- Whatever the order the associations are walked in, an update of the session from the address it
was established from finds an association that has it. -/
def Reachable (a : Audit) (session : SessionData) (o : Origin) : Prop :=
  ∀ env, ∃ ip port x, o.peerAddr = .v4 ip port ∧ findAssociation env a.srv o.peerAddr = some x ∧
    (x.2.sessions.lookup session.cpSeid).isSome

def Agree (a : Audit) : Prop :=
  Set.BijOn a.ownerPair a.liveSeids a.tablePairs ∧
    ∀ s session o, a.Live s session → a.origin.lookup s = some o → a.Reachable session o

/-- No Recovery Time Stamp changes, and each source sets up one association. -/
def OneSetup (a : Audit) : Event → Prop
  | .datagram _ _ data src =>
    (∀ recv ∈ (heartbeatOf (received data)).join, ∀ x ∈ a.srv.associations.entries,
      x.2.peerAddr = src → x.2.recoveryTs = recv) ∧
    ∀ req ∈ freshSetup (received data) a.world, a.srv.associations.lookup req.nodeId = none ∧
      ∀ x ∈ a.srv.associations.entries, x.2.peerAddr ≠ src
  | _ => True

-- The instances are named here: a time stamp has finitely many values, and a search may go through
-- all of them.
instance (a : Audit) : ∀ ev, Decidable (a.OneSetup ev)
  | .datagram .. =>
    @instDecidableAnd _ _ (Option.decidableForallMem _) (Option.decidableForallMem _)
  | .snapshot _ | .report _ | .uplink _ _ | .downlink _ _ => inferInstanceAs (Decidable True)

/-- The establishment of an event that every map has room for. -/
def accepted (host : Host) (a : Audit) : Event → Option Admission
  | .datagram env now data src =>
    (establishes env (received data) src a.world).bind fun p =>
      (p.1.createFars.findSome? (·.outerHeaderCreation)).bind fun gnbInfo =>
        (p.1.createPdrs.findSome? (·.ueIp)).bind fun ueIp =>
          if (install (installSteps host.endian env a.srv.n3Addr a.srv.nextSeid a.srv.nextTeid ueIp
            gnbInfo p.1) (allocated (touched now a.world))).1 then some ⟨src, p.2, p.1.cpSeid, ueIp⟩
          else none
  | _ => none

/-- The deletion of an event that is accepted. -/
def deletion (a : Audit) :
    Event → Option (UInt64 × SessionData × Sigma fun _ : Ipv4Addr => SmfAssociation)
  | .datagram env _ data src => deletes env (received data) src a.world
  | _ => none

/-- An accepted establishment uses a SEID that its association does not have yet, and an accepted
deletion comes from the association that established the session. -/
def Orderly (host : Host) (a : Audit) (ev : Event) : Prop :=
  (∀ adm ∈ a.accepted host ev, adm.assoc.sessions.lookup adm.cpSeid = none) ∧
    ∀ d ∈ a.deletion ev, ∀ o ∈ a.origin.lookup d.1, d.2.2.2.nodeId = o.nodeId

instance (host : Host) (a : Audit) (ev : Event) : Decidable (a.Orderly host ev) :=
  inferInstanceAs (Decidable (_ ∧ _))

/-! ### Where the associations are -/

/-- What `OneSetup` keeps: one association for each address, and the one that established a session
still at its place. -/
structure Placed (a : Audit) : Prop where
  oneSource : ∀ {k k' x x'}, a.srv.associations.lookup k = some x →
    a.srv.associations.lookup k' = some x' → x.peerAddr = x'.peerAddr → k = k'
  origin : ∀ {s o}, a.origin.lookup s = some o →
    (∃ x, a.srv.associations.lookup o.nodeId = some x ∧ x.peerAddr = o.peerAddr) ∧
      ∃ ip port, o.peerAddr = .v4 ip port

section Step

variable {host : Host} {n : ℕ} {a a' : Audit} {ev : Event}

theorem init_placed (b : Boot) : Placed (init b) where
  oneSource h := by cases h
  origin h := by cases h

/-- A heartbeat with the time stamp that the associations at its address have changes none. -/
theorem heartbeat_lookup {env : Env} {data : Bytes} {src : SocketAddr} {recvTs : Option UInt32}
    (h : ∀ recv ∈ (heartbeatOf (received data)).join, ∀ x ∈ a.srv.associations.entries,
      x.2.peerAddr = src → x.2.recoveryTs = recv)
    (hhb : heartbeatOf (received data) = some recvTs) (k : Ipv4Addr) :
    (heartbeatAssociations env src recvTs a.srv).lookup k = a.srv.associations.lookup k := by
  rcases lookup_heartbeatAssociations env src recvTs a.srv k with
    heq | ⟨assoc, recv, rfl, hfind, hk, hts, -⟩
  · exact heq
  · have hpeer := (findAssociation_some hfind).2
    have hrecv : recv ∈ (heartbeatOf (received data)).join := by rw [hhb]; rfl
    exact absurd (h recv hrecv _ (Table.lookup_eq_some.mp hk) hpeer) hts

/-- Each association keeps its Node ID and address. -/
theorem Placed.of_same (h : Placed a)
    (hassoc : ∀ k, (a'.srv.associations.lookup k).map (·.peerAddr) =
      (a.srv.associations.lookup k).map (·.peerAddr))
    (horigin : ∀ {s o}, a'.origin.lookup s = some o → a.origin.lookup s = some o ∨
      (∃ x, a.srv.associations.lookup o.nodeId = some x ∧ x.peerAddr = o.peerAddr) ∧
        ∃ ip port, o.peerAddr = .v4 ip port) : Placed a' := by
  have hback : ∀ {k x'}, a'.srv.associations.lookup k = some x' →
      ∃ x, a.srv.associations.lookup k = some x ∧ x.peerAddr = x'.peerAddr := by
    intro k x' hk
    have heq := hassoc k
    rw [hk, Option.map_some] at heq
    exact Option.map_eq_some_iff.mp heq.symm
  constructor
  · intro k k' x x' hk hk' hpeer
    obtain ⟨y, hy, hyp⟩ := hback hk
    obtain ⟨y', hy', hyp'⟩ := hback hk'
    exact h.oneSource hy hy' (by rw [hyp, hyp', hpeer])
  · intro s o ho
    have hplace : (∃ x, a.srv.associations.lookup o.nodeId = some x ∧ x.peerAddr = o.peerAddr) ∧
        ∃ ip port, o.peerAddr = .v4 ip port := by
      rcases horigin ho with hold | hnew
      · exact h.origin hold
      · exact hnew
    obtain ⟨⟨x, hx, hpeer⟩, hv4⟩ := hplace
    have heq := hassoc o.nodeId
    rw [hx, Option.map_some] at heq
    obtain ⟨x', hx', hpeer'⟩ := Option.map_eq_some_iff.mp heq
    exact ⟨⟨x', hx', hpeer'.trans hpeer⟩, hv4⟩

theorem Placed.step (hl : Ledger a) (h : Placed a) (hone : a.OneSetup ev) :
    Placed (a.step host ev) := by
  have hmove := a.step_move host ev
  generalize a.step host ev = a' at hmove ⊢
  have hadmit : ∀ {env data src req assoc s o},
      establishes env (received data) src a.world = some (req, assoc) →
      a'.origin = a.issued src req assoc → a'.origin.lookup s = some o →
      a.origin.lookup s = some o ∨
        (∃ x, a.srv.associations.lookup o.nodeId = some x ∧ x.peerAddr = o.peerAddr) ∧
          ∃ ip port, o.peerAddr = .v4 ip port := by
    intro env data src req assoc s o hest ho hs
    rw [ho] at hs
    by_cases hsn : s = a.srv.nextSeid
    · rw [hsn, lookup_issued_self] at hs
      obtain rfl := Option.some.inj hs
      obtain ⟨k, hk, hpeer⟩ := establishes_association hest
      obtain rfl := hl.keyed hk
      refine .inr ⟨⟨assoc, hk, hpeer⟩, ?_⟩
      cases src with
      | v4 ip port => exact ⟨ip, port, rfl⟩
      | v6 => simp [establishes] at hest
    · rw [lookup_issued_ne hsn] at hs
      exact .inl hs
  cases hmove with
  | steady hw ho hl' hest =>
    exact h.of_same (fun k => by rw [Audit.srv, hw.associations])
      fun hs => .inl (by rw [← ho]; exact hs)
  | heartbeat recvTs hhb hest hw ho hl' =>
    refine h.of_same (fun k => ?_) fun hs => .inl (by rw [← ho]; exact hs)
    rw [Audit.srv, hw]
    exact congrArg _ (heartbeat_lookup hone.1 hhb k)
  | @setup env now data src _ req hset hest hw ho hl' =>
    obtain ⟨hnone, hnew⟩ := hone.2 req hset
    have hlookup : ∀ k, a'.srv.associations.lookup k = if k = req.nodeId then
        some (.new req.nodeId src req.recoveryTs) else a.srv.associations.lookup k := by
      intro k
      rw [Audit.srv, hw]
      exact Table.lookup_insert_ite _ _ _ _
    constructor
    · intro k k' x x' hk hk' hpeer
      rw [hlookup] at hk hk'
      split_ifs at hk hk' with h1 h2 h2
      · rw [h1, h2]
      · obtain rfl := Option.some.inj hk
        exact absurd hpeer.symm (hnew _ (Table.lookup_eq_some.mp hk'))
      · obtain rfl := Option.some.inj hk'
        exact absurd hpeer (hnew _ (Table.lookup_eq_some.mp hk))
      · exact h.oneSource hk hk' hpeer
    · intro s o hs
      rw [ho] at hs
      obtain ⟨⟨x, hx, hpeer⟩, hv4⟩ := h.origin hs
      refine ⟨⟨x, ?_, hpeer⟩, hv4⟩
      rw [hlookup, if_neg (by rintro heq; rw [heq, hnone] at hx; cases hx)]
      exact hx
  | refused req assoc hest hnone hw ho hl' =>
    exact h.of_same (fun k => by rw [Audit.srv, hw]; rfl) fun hs => hadmit hest ho hs
  | interrupted req assoc ueIp gnbInfo hest hue hgnb hinst ho hl' =>
    exact h.of_same (fun k => by rw [Audit.srv, (installed hinst).associations])
      fun hs => hadmit hest ho hs
  | established req assoc ueIp gnbInfo w' hest hue hgnb hinst hw ho hl' =>
    refine h.of_same (fun k => ?_) fun hs => hadmit hest ho hs
    rw [Audit.srv, hw, map_registerSession fun _ _ => rfl, (installed hinst).associations]
  | deleted seid session assoc hest hdel hw ho hl' =>
    refine h.of_same (fun k => ?_) fun hs => .inl (by rw [← ho]; exact hs)
    rw [Audit.srv, hw]
    exact map_unregisterSession (fun _ _ => rfl) assoc.2.nodeId seid session.cpSeid a.world k

/-! ### The bijection -/

theorem mem_tablePairs {k : Ipv4Addr} {c : UInt64} : (k, c) ∈ a.tablePairs ↔
    ∃ x, a.srv.associations.lookup k = some x ∧ (x.sessions.lookup c).isSome :=
  Iff.rfl

theorem mem_liveSeids {s : UInt64} : s ∈ a.liveSeids ↔ ∃ session, a.Live s session :=
  Option.isSome_iff_exists

theorem ownerPair_of_live {s : UInt64} {session : SessionData} {o : Origin} (hs : a.Live s session)
    (ho : a.origin.lookup s = some o) : a.ownerPair s = (o.nodeId, session.cpSeid) := by
  unfold ownerPair
  rw [ho, hs]
  rfl

/-- A bijection, with the association that established a session at its place, makes every live
session reachable. -/
theorem agree_of_bijOn (hp : Placed a)
    (h : Set.BijOn a.ownerPair a.liveSeids a.tablePairs) : a.Agree := by
  refine ⟨h, fun s session o hs ho env => ?_⟩
  obtain ⟨⟨x, hx, hpeer⟩, ip, port, hv4⟩ := hp.origin ho
  obtain ⟨y, hy, hsome⟩ := h.mapsTo (mem_liveSeids.mpr ⟨session, hs⟩)
  rw [ownerPair_of_live hs ho] at hy hsome
  obtain rfl : x = y := Option.some.inj (hx.symm.trans hy)
  have hfound := findAssociation_isSome env hx
  rw [hpeer] at hfound
  obtain ⟨z, hz⟩ := Option.isSome_iff_exists.mp hfound
  obtain ⟨hz', hzpeer⟩ := findAssociation_some hz
  have hkey : z.1 = o.nodeId := hp.oneSource hz' hx (hzpeer.trans hpeer.symm)
  rw [hkey, hx] at hz'
  refine ⟨ip, port, z, hv4, hz, ?_⟩
  rw [← Option.some.inj hz']
  exact hsome

/-- The same sessions with the same origins, and the same tables. -/
theorem bijOn_of_same (h : Set.BijOn a.ownerPair a.liveSeids a.tablePairs)
    (hs : ∀ s, (a'.srv.sessions.lookup s).map (·.cpSeid) = (a.srv.sessions.lookup s).map (·.cpSeid))
    (ho : ∀ s ∈ a.liveSeids, a'.origin.lookup s = a.origin.lookup s)
    (ht : a'.tablePairs = a.tablePairs) :
    Set.BijOn a'.ownerPair a'.liveSeids a'.tablePairs := by
  have hlive : a'.liveSeids = a.liveSeids := by
    ext s
    have heq := congrArg Option.isSome (hs s)
    rw [Option.isSome_map, Option.isSome_map] at heq
    change _ = true ↔ _ = true
    rw [heq]
  rw [hlive, ht]
  refine h.congr fun s hmem => ?_
  unfold ownerPair
  rw [hs, ho s hmem]

theorem tablePairs_congr (h : ∀ k, a'.srv.associations.lookup k = a.srv.associations.lookup k) :
    a'.tablePairs = a.tablePairs := by
  ext ⟨k, c⟩
  rw [mem_tablePairs, mem_tablePairs, h]

theorem ne_nextSeid (hi : Issued n a) {s : UInt64} (hs : s ∈ a.liveSeids) : s ≠ a.srv.nextSeid := by
  obtain ⟨session, hs⟩ := mem_liveSeids.mp hs
  rintro rfl
  exact Nat.lt_irrefl _ (hi.live hs)

/-- What an accepted establishment does to the three sides of the bijection. -/
structure Registered (a a' : Audit) (node : Ipv4Addr) (cpSeid : UInt64) : Prop where
  live : a'.liveSeids = insert a.srv.nextSeid a.liveSeids
  table : a'.tablePairs = insert (node, cpSeid) a.tablePairs
  new : a'.ownerPair a.srv.nextSeid = (node, cpSeid)
  old : ∀ s ∈ a.liveSeids, a'.ownerPair s = a.ownerPair s

theorem registered (hi : Issued n a) (hl : Ledger a) {env : Env} {now : Instant} {data : Bytes}
    {src : SocketAddr} {req : SessionEstablishmentReq} {assoc : SmfAssociation} {ueIp : Ipv4Addr}
    {gnbInfo : OuterHeaderCreation} {w' : World} {session : SessionData}
    (hest : establishes env (received data) src a.world = some (req, assoc))
    (hinst : install (installSteps host.endian env a.srv.n3Addr a.srv.nextSeid a.srv.nextTeid ueIp
      gnbInfo req) (allocated (touched now a.world)) = (true, w'))
    (hw : a'.world = registerSession assoc.nodeId a.srv.nextSeid session w')
    (ho : a'.origin = a.issued src req assoc) :
    Registered a a' assoc.nodeId session.cpSeid := by
  have hin := installed hinst
  obtain ⟨k, hk, -⟩ := establishes_association hest
  obtain rfl := hl.keyed hk
  have hsessions : ∀ s, a'.srv.sessions.lookup s =
      if s = a.srv.nextSeid then some session else a.srv.sessions.lookup s := by
    intro s
    rw [Audit.srv, hw, ← hin.sessions]
    exact Table.lookup_insert_ite _ _ _ _
  have hassoc : ∀ j, a'.srv.associations.lookup j = (a.srv.associations.lookup j).map fun x =>
      if j = assoc.nodeId then { x with sessions := x.sessions.insert session.cpSeid session }
      else x := by
    intro j
    rw [Audit.srv, hw, lookup_registerSession, hin.associations]
  constructor
  · ext s
    rw [Set.mem_insert_iff]
    change (a'.srv.sessions.lookup s).isSome = true ↔ _
    rw [hsessions]
    split_ifs with hs
    · simp [hs]
    · simp [hs, liveSeids]
  · ext ⟨j, c⟩
    rw [Set.mem_insert_iff, mem_tablePairs, mem_tablePairs, Prod.mk.injEq, hassoc]
    constructor
    · rintro ⟨x', hx', hc⟩
      obtain ⟨x, hx, rfl⟩ := Option.map_eq_some_iff.mp hx'
      split_ifs at hc with hj
      · rw [Table.lookup_insert_ite] at hc
        split_ifs at hc with hcc
        · exact .inl ⟨hj, hcc⟩
        · exact .inr ⟨x, hx, hc⟩
      · exact .inr ⟨x, hx, hc⟩
    · rintro (⟨rfl, rfl⟩ | ⟨x, hx, hc⟩)
      · rw [hk, Option.map_some, if_pos rfl]
        refine ⟨_, rfl, ?_⟩
        rw [Table.lookup_insert_ite, if_pos rfl]
        rfl
      · rw [hx, Option.map_some]
        refine ⟨_, rfl, ?_⟩
        split_ifs
        · rw [Table.lookup_insert_ite]
          split_ifs
          · rfl
          · exact hc
        · exact hc
  · unfold ownerPair
    rw [ho, lookup_issued_self, hsessions, if_pos rfl]
    rfl
  · intro s hs
    have hne := ne_nextSeid hi hs
    unfold ownerPair
    rw [ho, lookup_issued_ne hne, hsessions, if_neg hne]

/-- What an accepted deletion does to the three sides of the bijection. -/
structure Unregistered (a a' : Audit) (seid : UInt64) (node : Ipv4Addr) (cpSeid : UInt64) :
    Prop where
  live : a'.liveSeids = a.liveSeids \ {seid}
  table : a'.tablePairs = a.tablePairs \ {(node, cpSeid)}
  old : ∀ s ∈ a'.liveSeids, a'.ownerPair s = a.ownerPair s

theorem unregistered {e : Endian} {env : Env} {now : Instant} {seid : UInt64}
    {session : SessionData} {node : Ipv4Addr} {tasks : List StoreTask}
    (hw : a'.world = { unregisterSession node seid session.cpSeid (touched now a.world) with
      maps := removeRules e env seid session a.maps, tasks := tasks })
    (ho : a'.origin = a.origin) : Unregistered a a' seid node session.cpSeid := by
  have hsessions : ∀ s, a'.srv.sessions.lookup s =
      if s = seid then none else a.srv.sessions.lookup s := by
    intro s
    rw [Audit.srv, hw]
    exact Table.lookup_erase_ite _ _ _
  have hassoc : ∀ j, a'.srv.associations.lookup j = (a.srv.associations.lookup j).map fun x =>
      if j = node then { x with sessions := x.sessions.erase session.cpSeid } else x := by
    intro j
    rw [Audit.srv, hw]
    exact lookup_unregisterSession ..
  have hlive : a'.liveSeids = a.liveSeids \ {seid} := by
    ext s
    rw [Set.mem_sdiff, Set.mem_singleton_iff]
    change (a'.srv.sessions.lookup s).isSome = true ↔ _
    rw [hsessions]
    split_ifs with hs
    · simp [hs]
    · simp [hs, liveSeids]
  refine ⟨hlive, ?_, fun s hs => ?_⟩
  · ext ⟨j, c⟩
    rw [Set.mem_sdiff, Set.mem_singleton_iff, mem_tablePairs, mem_tablePairs, Prod.mk.injEq, hassoc]
    constructor
    · rintro ⟨x', hx', hc⟩
      obtain ⟨x, hx, rfl⟩ := Option.map_eq_some_iff.mp hx'
      split_ifs at hc with hj
      · rw [Table.lookup_erase_ite] at hc
        split_ifs at hc with hcc
        · cases hc
        · exact ⟨⟨x, hx, hc⟩, fun h => hcc h.2⟩
      · exact ⟨⟨x, hx, hc⟩, fun h => hj h.1⟩
    · rintro ⟨⟨x, hx, hc⟩, hne⟩
      rw [hx, Option.map_some]
      refine ⟨_, rfl, ?_⟩
      split_ifs with hj
      · rw [Table.lookup_erase_ite, if_neg fun hcc => hne ⟨hj, hcc⟩]
        exact hc
      · exact hc
  · rw [hlive] at hs
    have hne : s ≠ seid := fun heq => hs.2 (Set.mem_singleton_iff.mpr heq)
    unfold ownerPair
    rw [ho, hsessions, if_neg hne]

/-! ### One event -/

theorem accepted_of {env : Env} {now : Instant} {data : Bytes} {src : SocketAddr}
    {req : SessionEstablishmentReq} {assoc : SmfAssociation} {ueIp : Ipv4Addr}
    {gnbInfo : OuterHeaderCreation} {ok : Bool} {w' : World}
    (hest : establishes env (received data) src a.world = some (req, assoc))
    (hue : req.createPdrs.findSome? (·.ueIp) = some ueIp)
    (hgnb : req.createFars.findSome? (·.outerHeaderCreation) = some gnbInfo)
    (hinst : install (installSteps host.endian env a.srv.n3Addr a.srv.nextSeid a.srv.nextTeid ueIp
      gnbInfo req) (allocated (touched now a.world)) = (ok, w')) :
    a.accepted host (.datagram env now data src) =
      if ok then some ⟨src, assoc, req.cpSeid, ueIp⟩ else none := by
  simp only [accepted, hest, hgnb, hue, Option.bind_some, hinst]

/-- An orderly event keeps the bijection. -/
theorem bijOn_step (hi : Issued n a) (hl : Ledger a) (hone : a.OneSetup ev)
    (hord : a.Orderly host ev) (h : Set.BijOn a.ownerPair a.liveSeids a.tablePairs) :
    Set.BijOn (a.step host ev).ownerPair (a.step host ev).liveSeids
      (a.step host ev).tablePairs := by
  have hmove := a.step_move host ev
  generalize a.step host ev = a' at hmove ⊢
  have hissued : ∀ s ∈ a.liveSeids, a'.origin.lookup s = a.origin.lookup s :=
    fun s hs => origin_of_ne hmove (ne_nextSeid hi hs)
  cases hmove with
  | steady hw ho hl' hest =>
    refine bijOn_of_same h (fun s => ?_) (fun s _ => by rw [ho])
      (tablePairs_congr fun k => by rw [Audit.srv, hw.associations])
    have hid := congrArg (Option.map Prod.snd) (hw.session s)
    rwa [Option.map_map, Option.map_map] at hid
  | heartbeat recvTs hhb hest hw ho hl' =>
    refine bijOn_of_same h (fun s => by rw [Audit.srv, hw]; rfl) (fun s _ => by rw [ho])
      (tablePairs_congr fun k => ?_)
    rw [Audit.srv, hw]
    exact heartbeat_lookup hone.1 hhb k
  | setup req hset hest hw ho hl' =>
    refine bijOn_of_same h (fun s => by rw [Audit.srv, hw]; rfl) (fun s _ => by rw [ho]) ?_
    have hnone := (hone.2 req hset).1
    ext ⟨k, c⟩
    rw [mem_tablePairs, mem_tablePairs, Audit.srv, hw]
    change (∃ x, (Table.insert _ _ _).lookup k = some x ∧ _) ↔ _
    rw [Table.lookup_insert_ite]
    split_ifs with hk
    · rw [hk, hnone]
      simp [SmfAssociation.new, Table.lookup]
    · rfl
  | refused req assoc hest hnone hw ho hl' =>
    exact bijOn_of_same h (fun s => by rw [Audit.srv, hw]; rfl) hissued
      (tablePairs_congr fun k => by rw [Audit.srv, hw]; rfl)
  | interrupted req assoc ueIp gnbInfo hest hue hgnb hinst ho hl' =>
    have hin := installed hinst
    exact bijOn_of_same h (fun s => by rw [Audit.srv, hin.sessions]) hissued
      (tablePairs_congr fun k => by rw [Audit.srv, hin.associations])
  | established req assoc ueIp gnbInfo w' hest hue hgnb hinst hw ho hl' =>
    have hreg := registered hi hl hest hinst hw ho
    obtain ⟨k, hk, -⟩ := establishes_association hest
    obtain rfl := hl.keyed hk
    have hnone : assoc.sessions.lookup req.cpSeid = none :=
      hord.1 _ (accepted_of hest hue hgnb hinst)
    have hfresh : a'.ownerPair a.srv.nextSeid ∉ a.tablePairs := by
      rw [hreg.new]
      rintro ⟨x, hx, hc⟩
      obtain rfl := Option.some.inj (hk.symm.trans hx)
      rw [hnone] at hc
      cases hc
    have hcongr := h.congr fun s hs => (hreg.old s hs).symm
    rw [hreg.live, hreg.table, ← hreg.new]
    exact hcongr.insert hfresh
  | deleted seid session assoc hest hdel hw ho hl' =>
    obtain ⟨-, hlive, -, -⟩ := of_deletes hdel
    have hun := unregistered hw ho
    obtain ⟨o, horigin, -⟩ := hl.live hlive
    have hnode : assoc.2.nodeId = o.nodeId := hord.2 _ hdel o horigin
    have hpair : a.ownerPair seid = (assoc.2.nodeId, session.cpSeid) := by
      rw [ownerPair_of_live hlive horigin, hnode]
    have hrest := h.sdiff_singleton (mem_liveSeids.mpr ⟨session, hlive⟩)
    rw [hpair, ← hun.live, ← hun.table] at hrest
    exact hrest.congr fun s hs => (hun.old s hs).symm

/-- A SEID that the association already has would belong to two sessions. -/
theorem lookup_of_bijOn (hi : Issued n a) (hl : Ledger a)
    (h : Set.BijOn a.ownerPair a.liveSeids a.tablePairs)
    (h' : Set.BijOn (a.step host ev).ownerPair (a.step host ev).liveSeids
      (a.step host ev).tablePairs) {adm : Admission} (hadm : a.accepted host ev = some adm) :
    adm.assoc.sessions.lookup adm.cpSeid = none := by
  have hmove := a.step_move host ev
  generalize a.step host ev = a' at hmove h'
  have hnot : ∀ {env now data src}, ev = .datagram env now data src →
      establishes env (received data) src a.world ≠ none := by
    rintro env now data src rfl hnone
    simp only [accepted, hnone, Option.bind_none] at hadm
    cases hadm
  cases hmove with
  | steady hw ho hl' hest =>
    cases ev with
    | datagram env now data src => exact absurd (hest env now data src rfl) (hnot rfl)
    | snapshot | report | uplink | downlink => cases hadm
  | heartbeat recvTs hhb hest hw ho hl'
  | setup req hset hest hw ho hl'
  | deleted seid session assoc hest hdel hw ho hl' => exact absurd hest (hnot rfl)
  | refused req assoc hest hnone hw ho hl' =>
    simp only [accepted, hest, Option.bind_some] at hadm
    rcases hnone with hnone | hnone
    · simp only [hnone, Option.bind_none, Option.bind_fun_none] at hadm
      cases hadm
    · simp only [hnone, Option.bind_none] at hadm
      cases hadm
  | interrupted req assoc ueIp gnbInfo hest hue hgnb hinst ho hl' =>
    cases (accepted_of hest hue hgnb hinst).symm.trans hadm
  | established req assoc ueIp gnbInfo w' hest hue hgnb hinst hw ho hl' =>
    obtain rfl := Option.some.inj ((accepted_of hest hue hgnb hinst).symm.trans hadm)
    have hreg := registered hi hl hest hinst hw ho
    obtain ⟨k, hk, -⟩ := establishes_association hest
    obtain rfl := hl.keyed hk
    by_contra hsome
    obtain ⟨s, hs, hpair⟩ := h.surjOn (mem_tablePairs.mpr
      ⟨assoc, hk, Option.isSome_iff_ne_none.mpr hsome⟩)
    have hs' : s ∈ a'.liveSeids := by
      rw [hreg.live]
      exact Set.mem_insert_of_mem _ hs
    have hnew : a.srv.nextSeid ∈ a'.liveSeids := by
      rw [hreg.live]
      exact Set.mem_insert _ _
    have heq : a'.ownerPair s = a'.ownerPair a.srv.nextSeid := by
      rw [hreg.old s hs, hreg.new, hpair]
    exact ne_nextSeid hi hs (h'.injOn hs' hnew heq)

/-- A deletion from another SMF would leave an entry without a session. -/
theorem nodeId_of_bijOn (h : Set.BijOn a.ownerPair a.liveSeids a.tablePairs)
    (h' : Set.BijOn (a.step host ev).ownerPair (a.step host ev).liveSeids
      (a.step host ev).tablePairs) {seid : UInt64} {session : SessionData}
    {assoc : Sigma fun _ : Ipv4Addr => SmfAssociation}
    (hdel : a.deletion ev = some (seid, session, assoc)) {o : Origin}
    (ho : a.origin.lookup seid = some o) : assoc.2.nodeId = o.nodeId := by
  cases ev with
  | datagram env now data src =>
    obtain ⟨hw, horigin⟩ := step_of_deletes host now hdel
    generalize a.step host (.datagram env now data src) = a' at hw horigin h'
    obtain ⟨-, hlive, -, -⟩ := of_deletes hdel
    have hun := unregistered hw horigin
    have hmem := mem_liveSeids.mpr ⟨session, hlive⟩
    have hpair := ownerPair_of_live hlive ho
    by_contra hne
    have hkept : a.ownerPair seid ∈ a'.tablePairs := by
      rw [hun.table, hpair]
      refine ⟨?_, fun heq => hne (Prod.mk.inj heq).1.symm⟩
      rw [← hpair]
      exact h.mapsTo hmem
    obtain ⟨s, hs, heq⟩ := h'.surjOn hkept
    rw [hun.old s hs] at heq
    rw [hun.live] at hs
    exact hs.2 (h.injOn hs.1 hmem heq)
  | snapshot | report | uplink | downlink => cases hdel

end Step

/-- **Agreement.**  While no Recovery Time Stamp changes, each source sets up one association and
the SEID counter does not wrap, the session table and the association tables agree in all states of
a run exactly when every event of it is orderly. -/
theorem always_agree_iff (host : Host) (b : Boot) (evs : List Event)
    (hm : Meets (step host) (fun a ev => a.OneSetup ev ∧ a.IssuesBelow (2 ^ 64 - 1) ev) (init b)
      evs) :
    Always (step host) Agree (init b) evs ↔ Meets (step host) (Orderly host) (init b) evs := by
  have hstart : Set.BijOn (init b).ownerPair (init b).liveSeids (init b).tablePairs := by
    have hlive : (init b).liveSeids = ∅ := Set.eq_empty_of_forall_notMem fun s hs => by cases hs
    have htable : (init b).tablePairs = ∅ :=
      Set.eq_empty_of_forall_notMem fun p ⟨x, hx, _⟩ => by cases hx
    rw [hlive, htable]
    exact Set.bijOn_empty _
  refine always_iff_meets_of (I := fun a => Issued (2 ^ 64 - 1) a ∧ Ledger a ∧ Placed a)
    (fun a ev h hp => ?_) (fun a ev h hagree hp hord => ?_) (fun a ev h hagree hp hagree' => ?_)
    ⟨init_issued (by decide) b, init_ledger b, init_placed b⟩ ?_ hm
  · exact ⟨h.1.step (by decide) hp.2, h.2.1.step h.1, h.2.2.step h.2.1 hp.1⟩
  · exact agree_of_bijOn (h.2.2.step h.2.1 hp.1) (bijOn_step h.1 h.2.1 hp.1 hord hagree.1)
  · exact ⟨fun adm hadm => lookup_of_bijOn h.1 h.2.1 hagree.1 hagree'.1 hadm,
      fun d hd o ho => nodeId_of_bijOn hagree.1 hagree'.1 hd ho⟩
  · exact agree_of_bijOn (init_placed b) hstart

section Sim

open SmfSim

/-- Two simulators may use the same number for a session, as long as each deletes its own. -/
theorem always_agree_iff_sim :
    Always (step host) Agree (init boot) [setup smfA 1, setup smfB 1, establish smfA 1 ue1,
      establish smfB 1 ue2, sends smfA (sessionDeletion 1)] :=
  (always_agree_iff host boot _ (by decide +kernel)).mpr (by decide +kernel)

/-- A retransmitted establishment makes a second session under the same number. -/
theorem not_agree_retransmission :
    Meets (step host) OneSetup (init boot) [setup smfA 1, establish smfA 1 ue1,
        establish smfA 1 ue1] ∧
      ¬ Agree (after host boot [setup smfA 1, establish smfA 1 ue1, establish smfA 1 ue1]) := by
  refine ⟨by decide +kernel, fun h => ?_⟩
  generalize hrun : after host boot [setup smfA 1, establish smfA 1 ue1, establish smfA 1 ue1] = a
    at h
  have hlive : (a.srv.sessions.lookup 1).isSome ∧ (a.srv.sessions.lookup 2).isSome := by
    rw [← hrun]
    decide +kernel
  have hpair : a.ownerPair 1 = a.ownerPair 2 := by
    rw [← hrun]
    decide +kernel
  exact absurd (h.1.injOn hlive.1 hlive.2 hpair) (by decide)

end Sim

end Audit

end UpfEdge
