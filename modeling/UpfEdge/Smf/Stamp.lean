import UpfEdge.Associations
import UpfEdge.Smf.Link

/-!
# One Recovery Time Stamp for one process

The UPF takes a simulator whose Recovery Time Stamp has changed for one that has started again: a
Heartbeat Request with another stamp empties its association, a setup with another stamp replaces
it.  Setups and keepalive heartbeats carry `recovery_ts()`, the time of its first use; the
interactive heartbeat and the answers to unsolicited heartbeats carry the time of day.

`one_stamp` says that a process is safe as long as all readings of the clock that become stamps are
of the same second: every stamp that is sent is one of them, and so is every stamp that the UPF
holds (`Stamped`).
-/

namespace UpfEdge.SmfSim

open Lib Pfcp Server

/-! ### Stamps of the simulator's messages -/

namespace Purpose

/-- The Recovery Time Stamp of a message. -/
def stamp? : Purpose → Option UInt32
  | heartbeat _ ts | keepaliveHeartbeat _ ts | association ts | keepaliveAssociation _ ts => some ts
  | addSession .. | delSession .. => none

theorem stamps_message (cfg : Config) (purpose : Purpose) :
    stamps (purpose.message cfg) = purpose.stamp?.toList := by
  obtain ⟨header, hd, -⟩ := purpose.decode_message cfg
  rw [stamps_of_decode hd fun ie hie => (purpose.ies_short cfg ie hie).trans (by decide)]
  have h1 : pfcpIeNodeId ≠ pfcpIeRecoveryTimeStamp := by decide
  cases purpose with
  | addSession seq cpSeid ueIp gnbTeid =>
    have h2 : pfcpIeFseid ≠ pfcpIeRecoveryTimeStamp := by decide
    have h3 : pfcpIeCreatePdr ≠ pfcpIeRecoveryTimeStamp := by decide
    have h4 : pfcpIeCreateFar ≠ pfcpIeRecoveryTimeStamp := by decide
    simp [ies, establishmentCalls, RequestCall.ie, stampsOf, stamp?, h1, h2, h3, h4]
  | delSession => rfl
  | heartbeat seq ts | keepaliveHeartbeat seq ts =>
    simp [ies, stampsOf, stamp?, parseRecoveryTimestamp_u32ToBe, Except.toOption]
  | association ts | keepaliveAssociation seq ts =>
    simp [ies, stampsOf, stamp?, h1, parseRecoveryTimestamp_u32ToBe, Except.toOption]

end Purpose

namespace Process

variable {cfg : Config}

/-- The stamps the process holds are readings of the clock, and `recovery_ts()` has been read before
the first message of the keepalive task. -/
structure Stamped (p : Process cfg) : Prop where
  cell : ∀ ts ∈ p.recoveryTs, ts ∈ p.readings
  task : ∀ purpose ∈ p.purposes, ∀ ts ∈ purpose.stamp?, ts ∈ p.readings
  keepalive : ∀ purpose ∈ p.purposes, purpose.isKeepalive → p.recoveryTs.isSome

/-- What a use of `recovery_ts()` reads from the clock: something at its first use only. -/
def cellReading? (clock : UInt32) (p : Process cfg) : Option UInt32 :=
  if p.recoveryTs.isSome then none else some (ntp clock)

/-- A turn that reads `r` from the clock, and takes its stamps from what has been read. -/
def Grown (r : Option UInt32) (p p' : Process cfg) : Prop :=
  p.Stamped → p'.Stamped ∧ p'.readings = p.readings ++ r.toList

theorem Grown.refl (p : Process cfg) : Grown none p p := fun h => ⟨h, (List.append_nil _).symm⟩

theorem Grown.trans {r : Option UInt32} {p p' p'' : Process cfg} (h : Grown none p p')
    (h' : Grown r p' p'') : Grown r p p'' := by
  intro hp
  obtain ⟨hp', hr⟩ := h hp
  obtain ⟨hp'', hr'⟩ := h' hp'
  exact ⟨hp'', by rw [hr', hr, Option.toList_none, List.append_nil]⟩

/-- A turn that touches neither tasks nor stamps. -/
theorem Grown.of_eq {p p' : Process cfg} (hr : p'.readings = p.readings)
    (hc : p'.recoveryTs = p.recoveryTs) (hp : p'.purposes = p.purposes) : Grown none p p' := by
  refine fun h => ⟨⟨?_, ?_, ?_⟩, by rw [hr, Option.toList_none, List.append_nil]⟩
  · rw [hr, hc]
    exact h.cell
  · rw [hr, hp]
    exact h.task
  · rw [hc, hp]
    exact h.keepalive

/-- A call after a turn that has read its stamp. -/
theorem grown_begin {r : Option UInt32} {purpose : Purpose} {p q : Process cfg}
    (hpq : Grown r p q) (hread : p.Stamped → ∀ ts ∈ purpose.stamp?, ts ∈ q.readings)
    (hcell : purpose.isKeepalive → q.recoveryTs.isSome) : Grown r p (q.begin purpose) := by
  rcases q.begin_cases purpose with heq | ⟨t, rfl, heq⟩
  · rw [heq]
    exact hpq
  · rw [heq]
    intro hp
    obtain ⟨hq, hrs⟩ := hpq hp
    have hcases : ∀ purpose ∈ purposes { q with tasks := q.tasks ++ [t] },
        purpose ∈ q.purposes ∨ purpose = t.purpose := by
      intro purpose hmem
      rw [purposes_append] at hmem
      exact (List.mem_append.mp hmem).imp_right List.mem_singleton.mp
    refine ⟨⟨hq.cell, fun purpose hmem => ?_, fun purpose hmem => ?_⟩, hrs⟩
    · rcases hcases purpose hmem with hmem | rfl
      · exact hq.task purpose hmem
      · exact hread hp
    · rcases hcases purpose hmem with hmem | rfl
      · exact hq.keepalive purpose hmem
      · exact hcell

theorem grown_readClock (clock : UInt32) (p : Process cfg) :
    Grown (some (ntp clock)) p (p.readClock clock).2 :=
  fun h => ⟨⟨fun ts hts => List.mem_append_left _ (h.cell ts hts),
    fun purpose hmem ts hts => List.mem_append_left _ (h.task purpose hmem ts hts),
    h.keepalive⟩, rfl⟩

theorem mem_readClock (clock : UInt32) (p : Process cfg) :
    ntp clock ∈ (p.readClock clock).2.readings :=
  List.mem_append_right _ (List.mem_singleton_self _)

theorem grown_getRecoveryTs (clock : UInt32) (p : Process cfg) :
    Grown (p.cellReading? clock) p (p.getRecoveryTs clock).2 := by
  unfold getRecoveryTs
  split
  · next ts hts =>
    have hnil : p.cellReading? clock = none := by rw [cellReading?, hts]; rfl
    rw [hnil]
    exact .refl p
  · next hts =>
    have hone : p.cellReading? clock = some (ntp clock) := by rw [cellReading?, hts]; rfl
    rw [hone]
    intro hp
    obtain ⟨hq, hrs⟩ := grown_readClock clock p hp
    refine ⟨⟨fun ts h => ?_, hq.task, fun _ _ _ => rfl⟩, hrs⟩
    obtain rfl : ntp clock = ts := Option.some.inj h
    exact mem_readClock clock p

theorem recoveryTs_getRecoveryTs (clock : UInt32) (p : Process cfg) :
    (p.getRecoveryTs clock).2.recoveryTs = some (p.getRecoveryTs clock).1 := by
  unfold getRecoveryTs
  split
  · next ts hts => exact hts
  · rfl

/-- A call whose message carries `recovery_ts()`. -/
theorem grown_recoveryTs (clock : UInt32) {p q : Process cfg} (hpq : Grown none p q)
    {purpose : Purpose} (hstamp : purpose.stamp? = some (q.getRecoveryTs clock).1) :
    Grown (q.cellReading? clock) p ((q.getRecoveryTs clock).2.begin purpose) := by
  have hget := hpq.trans (grown_getRecoveryTs clock q)
  have hcell := recoveryTs_getRecoveryTs clock q
  refine grown_begin hget (fun hp ts hts => ?_) fun _ => by rw [hcell]; rfl
  exact (hget hp).1.cell ts (by rw [hcell, ← hstamp]; exact hts)

theorem grown_associate (clock : UInt32) (p : Process cfg) :
    Grown (p.cellReading? clock) p (p.associate clock) :=
  grown_recoveryTs clock (.refl p) rfl

theorem grown_keepaliveSeq (p : Process cfg) :
    Grown none p { p with keepaliveSeq := p.keepaliveSeq + 1 } :=
  .of_eq rfl rfl rfl

theorem grown_reassociate (clock : UInt32) (p : Process cfg) :
    Grown (p.cellReading? clock) p (p.reassociate clock) :=
  grown_recoveryTs clock p.grown_keepaliveSeq rfl

/-- Once the keepalive task has called, `recovery_ts()` reads no clock. -/
theorem Stamped.cellReading?_eq {p : Process cfg} (h : p.Stamped) (clock : UInt32)
    {purpose : Purpose} (hmem : purpose ∈ p.purposes) (hk : purpose.isKeepalive) :
    p.cellReading? clock = none :=
  if_pos (h.keepalive purpose hmem hk)

theorem grown_keepalive (clock : UInt32) (p : Process cfg) :
    Grown (p.cellReading? clock) p (p.keepalive clock) := by
  unfold keepalive
  split_ifs with hbusy
  · intro hp
    obtain ⟨t, ht, hk⟩ := List.any_eq_true.mp hbusy
    rw [hp.cellReading?_eq clock (List.mem_map_of_mem ht) (Bool.and_eq_true_iff.mp hk).1]
    exact Grown.refl p hp
  · exact grown_recoveryTs clock p.grown_keepaliveSeq rfl

theorem grown_heartbeat (clock : UInt32) (p : Process cfg) :
    Grown (some (ntp clock)) p (p.heartbeat clock) := by
  have hseq : Grown none p { p with state := p.state.nextSeqNum.2 } := .of_eq rfl rfl rfl
  refine grown_begin (hseq.trans (grown_readClock clock _)) (fun _ ts hts => ?_) nofun
  obtain rfl : ntp clock = ts := Option.some.inj hts
  exact mem_readClock clock _

theorem grown_addSession (p : Process cfg) : Grown none p p.addSession := by
  unfold addSession
  simp only
  split
  · exact .of_eq rfl rfl rfl
  · exact grown_begin (.of_eq rfl rfl rfl) (fun _ _ => nofun) nofun

theorem grown_delSession (seid : UInt64) (p : Process cfg) : Grown none p (p.delSession seid) := by
  unfold delSession
  split
  · exact .refl p
  · exact grown_begin (.of_eq rfl rfl rfl) (fun _ _ => nofun) nofun

/-- What follows on the end of a call reads no clock: only the keepalive task sends on. -/
theorem grown_conclude (clock : UInt32) {purpose : Purpose} (phase : Phase) {p : Process cfg}
    (hmem : purpose ∈ p.purposes) : Grown none p (p.conclude clock purpose phase) := by
  have hre : purpose.isKeepalive → ∀ ts,
      Grown none p (reassociate clock { p with upfTs := ts }) := by
    intro hk ts hp
    have hset : Grown none p { p with upfTs := ts } := .of_eq rfl rfl rfl
    have hnil : cellReading? clock { p with upfTs := ts } = none := hp.cellReading?_eq clock hmem hk
    exact hset.trans (hnil ▸ grown_reassociate clock _) hp
  unfold conclude
  split
  · split
    · exact .of_eq rfl rfl rfl
    · exact .refl p
  · exact .of_eq rfl rfl rfl
  · split
    · split_ifs
      · exact .of_eq rfl rfl rfl
      · exact hre rfl _
      · exact .refl p
    · exact .refl p
  · exact hre rfl p.upfTs
  · split
    · exact .of_eq rfl rfl rfl
    · exact .refl p
  · exact .refl p

theorem grown_advance (clock : UInt32) {p : Process cfg} {i : ℕ} {t : Task cfg} (t' : Task cfg)
    (hi : p.tasks[i]? = some t) (hp : t'.purpose = t.purpose) :
    Grown none p (p.advance clock i t t') := by
  have hpur := purposes_set hi hp
  have hset : Grown none p { p with tasks := p.tasks.set i t' } := .of_eq rfl rfl hpur
  have hmem : t'.purpose ∈ purposes { p with tasks := p.tasks.set i t' } := by
    rw [hpur, hp]
    exact List.mem_map_of_mem (List.mem_of_getElem? hi)
  unfold advance
  simp only
  split_ifs
  · exact hset.trans (grown_conclude clock _ hmem)
  · exact hset

end Process

/-! ### What the UPF makes of a stamp -/

theorem mem_stamps {data body : Bytes} {header : PfcpHeader}
    (hd : PfcpHeader.decode data = .ok (header, body)) {raw : RawIE} {ts : UInt32}
    (hfind : findIe (iterIes body) pfcpIeRecoveryTimeStamp = some raw)
    (hparse : parseRecoveryTimestamp raw.value = .ok ts) : ts ∈ stamps data := by
  have htype : raw.ieType = pfcpIeRecoveryTimeStamp := by simpa using List.find?_some hfind
  simp only [stamps, hd]
  refine List.mem_filterMap.mpr ⟨raw, List.mem_of_find?_eq_some hfind, ?_⟩
  rw [if_pos htype, hparse]
  rfl

theorem mem_stamps_of_heartbeat {data : Bytes} {ts : UInt32}
    (h : heartbeatOf data = some (some ts)) : ts ∈ stamps data := by
  unfold heartbeatOf at h
  split at h
  · next header body hd =>
    split_ifs at h
    obtain ⟨raw, hfind, hparse⟩ := Option.bind_eq_some_iff.mp (Option.some.inj h)
    exact mem_stamps hd hfind (ok_of_toOption hparse)
  · cases h

theorem mem_stamps_of_setup {data : Bytes} {req : AssociationSetupReq}
    (h : setupOf data = some req) : req.recoveryTs ∈ stamps data := by
  unfold setupOf at h
  split at h
  · next header body hd =>
    split_ifs at h
    obtain ⟨nodeId, -, h⟩ := except_bind_ok (ok_of_toOption h)
    obtain ⟨ts, hts, h⟩ := except_bind_ok h
    obtain rfl := Except.ok.inj h
    unfold requireIe at hts
    split at hts
    · cases hts
    · next raw hfind =>
      cases hparse : parseRecoveryTimestamp raw.value with
      | error err =>
        rw [hparse] at hts
        cases hts
      | ok ts' =>
        rw [hparse] at hts
        obtain rfl : ts' = ts := Except.ok.inj hts
        exact mem_stamps hd hfind hparse
  · cases h

/-- Every stamp of an association is an old one or comes with the event. -/
theorem recoveryTs_of_step {host : Host} {a : Audit} {ev : Event} {k : Ipv4Addr}
    {assoc : SmfAssociation} (h : (a.step host ev).srv.associations.lookup k = some assoc) :
    (∃ old, a.srv.associations.lookup k = some old ∧ old.recoveryTs = assoc.recoveryTs) ∨
      ∃ env now data src, ev = .datagram env now data src ∧
        assoc.recoveryTs ∈ stamps (received data) := by
  rcases a.step_association host ev k with hlink | ⟨env, now, data, src, req, rfl, hset, -, hnew⟩ |
    ⟨env, now, data, src, recv, x, rfl, hhb, -, -, hnew⟩
  · rw [h] at hlink
    obtain ⟨old, hold, heq⟩ := Option.map_eq_some_iff.mp hlink.symm
    exact .inl ⟨old, hold, (Prod.mk.inj heq).2⟩
  · obtain rfl := Option.some.inj (hnew.symm.trans h)
    exact .inr ⟨env, now, data, src, rfl,
      mem_stamps_of_setup (Option.filter_eq_some_iff.mp hset).1⟩
  · obtain rfl := Option.some.inj (hnew.symm.trans h)
    exact .inr ⟨env, now, data, src, rfl, mem_stamps_of_heartbeat hhb⟩

/-- A Heartbeat Request or a setup with the stamp of every association changes none of them. -/
theorem association_spared {host : Host} {a : Audit} {env : Env} {now : Instant} {data : Bytes}
    {src : SocketAddr} {ts : UInt32} (hts : ∀ t ∈ stamps (received data), t = ts)
    (hassoc : ∀ {k assoc}, a.srv.associations.lookup k = some assoc → assoc.recoveryTs = ts)
    {header : PfcpHeader} {body : Bytes}
    (hd : PfcpHeader.decode (received data) = .ok (header, body))
    (htype : header.msgType = pfcpHeartbeatReq ∨ header.msgType = pfcpAssociationSetupReq)
    {k : Ipv4Addr} {assoc : SmfAssociation} (hk : a.srv.associations.lookup k = some assoc) :
    (a.step host (.datagram env now data src)).srv.associations.lookup k = some assoc := by
  have hest : ∀ {p}, establishes env (received data) src a.world ≠ some p := by
    intro p hp
    obtain ⟨req, x⟩ := p
    obtain ⟨header', body', hd', ht, -⟩ := of_establishes hp
    obtain ⟨rfl, -⟩ := Prod.mk.inj (Except.ok.inj (hd.symm.trans hd'))
    rcases htype with h | h <;> cases ht.symm.trans h
  have hmove := a.step_move host (.datagram env now data src)
  generalize a.step host (.datagram env now data src) = a' at hmove ⊢
  cases hmove with
  | steady hw ho hl => rw [Audit.srv, hw.associations]; exact hk
  | heartbeat recvTs hhb _ hw ho hl =>
    have heq : a'.srv.associations = heartbeatAssociations env src recvTs a.srv := by
      rw [Audit.srv, hw]
    rw [heq]
    rcases lookup_heartbeatAssociations env src recvTs a.srv k with
      hsame | ⟨x, recv, rfl, -, hold, hne, -⟩
    · rw [hsame, hk]
    · exact absurd (hassoc hold) (by rw [hts recv (mem_stamps_of_heartbeat hhb)] at hne; exact hne)
  | setup req hset _ hw ho hl =>
    obtain ⟨hof, hdup⟩ := Option.filter_eq_some_iff.mp hset
    have heq : a'.srv.associations =
        a.srv.associations.insert req.nodeId (.new req.nodeId src req.recoveryTs) := by
      rw [Audit.srv, hw]
      rfl
    have hne : k ≠ req.nodeId := by
      rintro rfl
      have hreq := hts _ (mem_stamps_of_setup hof)
      simp [isDuplicateSetup, hk, hreq, hassoc hk] at hdup
    rw [heq, Table.lookup_insert_ite, if_neg hne, hk]
  | refused req x hp => exact absurd hp hest
  | interrupted req x ueIp gnbInfo hp => exact absurd hp hest
  | established req x ueIp gnbInfo w' hp => exact absurd hp hest
  | deleted seid session x _ hdel hw ho hl =>
    have hof := (of_deletes hdel).1
    have ht : header.msgType ≠ pfcpSessionDeletionReq := by
      intro ht
      rcases htype with h | h <;> cases ht.symm.trans h
    simp [deletionOf, hd, ht] at hof

/-! ### The run -/

namespace Link

variable {cfg : Config}

/-- All Recovery Time Stamps that have been sent are the same. -/
def OneStamp (l : Link cfg) : Prop :=
  ∀ m ∈ l.sent, ∀ m' ∈ l.sent, ∀ t ∈ stamps m, ∀ t' ∈ stamps m', t = t'

/-- A Heartbeat Request or an Association Setup Request of the simulator that reaches the UPF leaves
the simulator's association, if it has one, and with it the association's sessions. -/
def Spared (host : Host) (l : Link cfg) : Act → Prop
  | .deliver k env now => ∀ data ∈ l.sent[k]?, ∀ header body,
      PfcpHeader.decode (received data) = .ok (header, body) →
      header.msgType = pfcpHeartbeatReq ∨ header.msgType = pfcpAssociationSetupReq →
      ∀ assoc, l.upf.srv.associations.lookup cfg.smfN4Addr = some assoc →
        (l.step host (.deliver k env now)).upf.srv.associations.lookup cfg.smfN4Addr = some assoc
  | _ => True

/-- What an act reads from the clock for a stamp: the interactive heartbeat and the answer to a
Heartbeat Request always read it, `recovery_ts()` at its first use. -/
def reading? (l : Link cfg) : Act → Option UInt32
  | .heartbeat clock => some (Process.ntp clock)
  | .associate clock | .keepalive clock => l.smf.cellReading? clock
  | .recv i k clock =>
    match l.smf.tasks[i]?, l.inbox[k]? with
    | some t, some data =>
      match t.call.phase with
      | .receiving _ =>
        if (PfcpHeader.decode data).toOption.map (·.1.msgType) = some pfcpHeartbeatReq then
          some (Process.ntp clock)
        else none
      | _ => none
    | _, _ => none
  | _ => none

/-- A stamp that is read from the clock is the one read before. -/
def Steady (l : Link cfg) (act : Act) : Prop :=
  ∀ r ∈ l.reading? act, ∀ r' ∈ l.smf.readings, r = r'

/-- Every stamp in sight is a reading of the simulator's clock. -/
structure Stamped (l : Link cfg) : Prop where
  smf : l.smf.Stamped
  wrote : ∀ m ∈ l.sent, Wrote cfg l.smf.purposes m
  sent : ∀ m ∈ l.sent, ∀ t ∈ stamps m, t ∈ l.smf.readings
  held : ∀ {k assoc}, l.upf.srv.associations.lookup k = some assoc →
    assoc.recoveryTs ∈ l.smf.readings

theorem start_stamped (cfg : Config) (b : Boot) : (start cfg b).Stamped where
  smf := ⟨nofun, nofun, nofun⟩
  wrote := nofun
  sent := nofun
  held h := by cases h

/-- What an act that reads `r` from the clock leaves. -/
def Keeps (l : Link cfg) (r : Option UInt32) (l' : Link cfg) : Prop :=
  l'.Stamped ∧ l'.smf.readings = l.smf.readings ++ r.toList

variable {host : Host} {l : Link cfg}

theorem Stamped.keeps (h : l.Stamped) : l.Keeps none l := ⟨h, (List.append_nil _).symm⟩

theorem Stamped.upfStep (h : l.Stamped) {ev : Event}
    (hsrc : ∀ env now data src, ev = .datagram env now data src → data ∈ l.sent) :
    l.Keeps none (l.upfStep host ev) := by
  refine ⟨⟨h.smf, h.wrote, h.sent, fun {k assoc} hk => ?_⟩, (List.append_nil _).symm⟩
  rcases recoveryTs_of_step hk with ⟨old, hold, heq⟩ | ⟨env, now, data, src, hev, hmem⟩
  · exact heq ▸ h.held hold
  · have hdata := hsrc _ _ _ _ hev
    rw [(h.wrote data hdata).received_eq] at hmem
    exact h.sent data hdata _ hmem

/-- A turn of the simulator, which sends `out`. -/
theorem Stamped.smfTurn (h : l.Stamped) {r : Option UInt32} {p' : Process cfg}
    (hg : Process.Grown r l.smf p') (hpur : l.smf.purposes ⊆ p'.purposes) {out : List Bytes}
    (hout : ∀ m ∈ out, Wrote cfg p'.purposes m)
    (hread : ∀ m ∈ out, ∀ t ∈ stamps m, t ∈ p'.readings) :
    l.Keeps r { l with smf := p', sent := l.sent ++ out } := by
  obtain ⟨hp', hrs⟩ := hg h.smf
  have hsub : l.smf.readings ⊆ p'.readings := hrs ▸ List.subset_append_left ..
  refine ⟨⟨hp', fun m hm => ?_, fun m hm t ht => ?_, fun hk => hsub (h.held hk)⟩, hrs⟩
  · rcases List.mem_append.mp hm with hm | hm
    · exact (h.wrote m hm).mono hpur
    · exact hout m hm
  · rcases List.mem_append.mp hm with hm | hm
    · exact hsub (h.sent m hm t ht)
    · exact hread m hm t ht

theorem Stamped.silent (h : l.Stamped) {r : Option UInt32} {p' : Process cfg}
    (hg : Process.Grown r l.smf p') (hpur : l.smf.purposes ⊆ p'.purposes) :
    l.Keeps r { l with smf := p' } := by
  have hnil := h.smfTurn hg hpur (List.forall_mem_nil _) (List.forall_mem_nil _)
  rwa [List.append_nil] at hnil

/-- The stamps of a request are readings. -/
theorem Stamped.request (h : l.Stamped) {i : ℕ} {t : Task cfg} (hi : l.smf.tasks[i]? = some t) :
    ∀ ts ∈ stamps t.call.req.msg, ts ∈ l.smf.readings := by
  intro ts hts
  rw [t.sends, Purpose.stamps_message] at hts
  exact h.smf.task t.purpose (List.mem_map_of_mem (List.mem_of_getElem? hi)) ts
    (Option.mem_toList.mp hts)

theorem purposes_advance (clock : UInt32) {p : Process cfg} {i : ℕ} {t : Task cfg} (t' : Task cfg)
    (hi : p.tasks[i]? = some t) (hp : t'.purpose = t.purpose) :
    p.purposes ⊆ (p.advance clock i t t').purposes := by
  cases Process.advanced t' clock hi hp with
  | quiet h => exact h.purposes
  | stored _ _ _ _ h => exact h.purposes
  | erased _ h => exact h.purposes

/-- A task goes on and sends `out`, requests of its own. -/
theorem Stamped.smfStep (h : l.Stamped) (clock : UInt32) {i : ℕ} {t : Task cfg} (t' : Task cfg)
    (hi : l.smf.tasks[i]? = some t) (hp : t'.purpose = t.purpose) {out : List Bytes}
    (hout : ∀ m ∈ out, m = t.call.req.msg) : l.Keeps none (l.smfStep clock i t t' out) := by
  have hg := Process.grown_advance clock t' hi hp
  have hpur := purposes_advance clock t' hi hp
  refine h.smfTurn hg hpur (fun m hm => ?_) fun m hm ts hts => ?_
  · rw [hout m hm]
    exact (wrote_request hi).mono hpur
  · rw [hout m hm] at hts
    rw [(hg h.smf).2, Option.toList_none, List.append_nil]
    exact h.request hi ts hts

/-- No call waits for a Heartbeat Request. -/
theorem expectedRspType_ne (t : Task cfg) : t.call.req.expectedRspType ≠ pfcpHeartbeatReq := by
  rw [expectedRspType_eq]
  cases t.purpose <;>
  · simp only [Purpose.msgType]
    decide

/-- A call answers Heartbeat Requests, with the time of day, and nothing else. -/
theorem onDatagram_reply_eq (t : Task cfg) (clock : UInt32) (data : Bytes) :
    ((PfcpHeader.decode data).toOption.map (·.1.msgType) = some pfcpHeartbeatReq ∧
      ∃ seq, (t.onDatagram clock data).2 = some (buildHeartbeatResponse seq (Process.ntp clock))) ∨
    ((PfcpHeader.decode data).toOption.map (·.1.msgType) ≠ some pfcpHeartbeatReq ∧
      (t.onDatagram clock data).2 = none) := by
  have hne := expectedRspType_ne t
  simp only [Task.onDatagram, Call.onDatagram, handleUnsolicited]
  cases PfcpHeader.decode data with
  | error e =>
    have hne : (Except.error e : Except PfcpError (PfcpHeader × Bytes)).toOption.map
        (·.1.msgType) ≠ some pfcpHeartbeatReq := by simp [Except.toOption]
    exact .inr ⟨hne, rfl⟩
  | ok p =>
    obtain ⟨hdr, body⟩ := p
    by_cases ht : hdr.msgType = pfcpHeartbeatReq
    · refine .inl ⟨congrArg some ht, hdr.seqNum, ?_⟩
      simp only [if_neg (ht ▸ hne.symm), if_pos ht]
      rfl
    · refine .inr ⟨fun h => ht (Option.some.inj h), ?_⟩
      simp only [if_neg ht]
      split_ifs <;> rfl

/-- A read that answers a heartbeat. -/
theorem Stamped.answer (h : l.Stamped) (clock : UInt32) {i : ℕ} {t : Task cfg} (t' : Task cfg)
    (hi : l.smf.tasks[i]? = some t) (hp : t'.purpose = t.purpose) (seq : UInt32) :
    l.Keeps (some (Process.ntp clock))
      { l with
        smf := ((l.smf.advance clock i t t').readClock clock).2
        sent := l.sent ++ [buildHeartbeatResponse seq (Process.ntp clock)] } := by
  have hg := (Process.grown_advance clock t' hi hp).trans (Process.grown_readClock clock _)
  refine h.smfTurn hg (purposes_advance clock t' hi hp) (fun m hm => ?_) fun m hm ts hts => ?_
  · exact .inr ⟨_, _, List.mem_singleton.mp hm⟩
  · rw [List.mem_singleton.mp hm, buildHeartbeatResponse, stamps_heartbeat] at hts
    rw [List.mem_singleton.mp hts]
    exact Process.mem_readClock clock _

/-- **Every act keeps all stamps among the readings.** -/
theorem Stamped.step (host : Host) (h : l.Stamped) (act : Act) :
    l.Keeps (l.reading? act) (l.step host act) := by
  cases act with
  | addSession =>
    refine h.silent l.smf.grown_addSession ?_
    rcases l.smf.addSession_cases with hq | ⟨_, hpur, -⟩
    · exact hq.purposes
    · exact hpur
  | delSession seid =>
    exact h.silent (Process.grown_delSession seid _) (Process.quiet_delSession seid _).purposes
  | heartbeat clock =>
    exact h.silent (Process.grown_heartbeat clock _) (Process.quiet_heartbeat clock _).purposes
  | associate clock =>
    exact h.silent (Process.grown_associate clock _) (Process.quiet_associate clock _).purposes
  | keepalive clock =>
    exact h.silent (Process.grown_keepalive clock _) (Process.quiet_keepalive clock _).purposes
  | sent i result clock =>
    simp only [Link.step, reading?]
    split
    · exact h.keeps
    · next t hi =>
      refine h.smfStep clock (t.onSent result) hi rfl fun m hm => ?_
      split at hm
      · exact List.mem_singleton.mp hm
      · cases hm
  | lapse i e clock =>
    simp only [Link.step, reading?]
    split
    · exact h.keeps
    · next t hi => exact h.smfStep clock (t.onLapse e) hi rfl (List.forall_mem_nil _)
  | recv i k clock =>
    simp only [Link.step, reading?]
    cases hi : l.smf.tasks[i]? with
    | none => exact h.keeps
    | some t =>
      cases l.inbox[k]? with
      | none => exact h.keeps
      | some data =>
        cases hphase : t.call.phase with
        | receiving attempt =>
          simp only [hphase]
          rcases onDatagram_reply_eq t clock data with ⟨hreq, seq, hreply⟩ | ⟨hreq, hreply⟩
          · rw [if_pos hreq, hreply, Option.isSome_some, if_pos rfl]
            exact h.answer clock (t.onDatagram clock data).1 hi rfl seq
          · rw [if_neg hreq, hreply, Option.isSome_none, if_neg Bool.false_ne_true]
            exact h.smfStep clock (t.onDatagram clock data).1 hi rfl (List.forall_mem_nil _)
        | sending | returned | failed =>
          simp only [hphase]
          exact h.keeps
  | stray data =>
    simp only [Link.step, reading?]
    split_ifs
    · exact h.keeps
    · exact ⟨⟨h.smf, h.wrote, h.sent, h.held⟩, (List.append_nil _).symm⟩
  | deliver k env now =>
    simp only [Link.step, reading?]
    split
    · exact h.keeps
    · next data hdata =>
      refine h.upfStep fun env' now' data' src' hev => ?_
      injection hev with _ _ hdata'
      exact hdata' ▸ List.mem_of_getElem? hdata
  | upf ev =>
    cases ev with
    | datagram => exact h.keeps
    | snapshot | report | uplink | downlink =>
      refine h.upfStep ?_
      rintro _ _ _ _ ⟨⟩

/-- All readings of the clock that have become stamps are the same. -/
structure OneReading (l : Link cfg) : Prop extends l.Stamped where
  same : ∀ r ∈ l.smf.readings, ∀ r' ∈ l.smf.readings, r = r'

theorem OneReading.step (host : Host) (h : l.OneReading) {act : Act} (hs : l.Steady act) :
    (l.step host act).OneReading := by
  obtain ⟨hst, hrs⟩ := h.toStamped.step host act
  refine ⟨hst, fun r hr r' hr' => ?_⟩
  rw [hrs] at hr hr'
  rcases List.mem_append.mp hr with hr | hr <;> rcases List.mem_append.mp hr' with hr' | hr'
  · exact h.same r hr r' hr'
  · exact (hs r' (Option.mem_toList.mp hr') r hr).symm
  · exact hs r (Option.mem_toList.mp hr) r' hr'
  · exact Option.mem_unique (Option.mem_toList.mp hr) (Option.mem_toList.mp hr')

theorem OneReading.oneStamp (h : l.OneReading) : l.OneStamp :=
  fun m hm m' hm' t ht t' ht' => h.same t (h.sent m hm t ht) t' (h.sent m' hm' t' ht')

theorem OneReading.spared (host : Host) (h : l.OneReading) (act : Act) : l.Spared host act := by
  cases act with
  | deliver k env now =>
    intro data hdata header body hd htype assoc hassoc
    have hmem : data ∈ l.sent := List.mem_of_getElem? hdata
    have hts : ∀ t ∈ stamps (received data), t = assoc.recoveryTs := by
      intro t ht
      rw [(h.wrote data hmem).received_eq] at ht
      exact h.same t (h.sent data hmem t ht) _ (h.held hassoc)
    simp only [Link.step, Option.mem_def.mp hdata]
    exact association_spared hts (fun hk => h.same _ (h.held hk) _ (h.held hassoc)) hd htype hassoc
  | _ => trivial

/-- **A running simulator is not mistaken for a restarted one as long as all clock readings that
become stamps are of one second.** -/
theorem one_stamp (host : Host) (cfg : Config) (b : Boot) (acts : List Act)
    (h : Meets (Link.step host) Steady (start cfg b) acts) :
    Always (Link.step host) OneStamp (start cfg b) acts ∧
      Meets (Link.step host) (Spared host) (start cfg b) acts := by
  have hstart : (start cfg b).OneReading := ⟨start_stamped cfg b, nofun⟩
  have hstep : ∀ (l : Link cfg) act, l.OneReading → l.Steady act → (l.step host act).OneReading :=
    fun _ _ hl hs => hl.step host hs
  constructor
  · rintro pre post rfl
    exact (run_inv hstep hstart (meets_append.mp h).1).oneStamp
  · exact Meets.of_inv hstep (fun _ act hl _ => hl.spared host act) hstart h

instance (l : Link cfg) (act : Act) : Decidable (l.Steady act) :=
  decidable_of_iff ((l.reading? act).toList.all fun r => l.smf.readings.all (r == ·))
    (by simp [Steady])

/-- The simulator sets up an association and adds a session. -/
def oneSession : List Act :=
  [.associate 0, .sent 0 (.ok ()) 0, .deliver 0 env 0, .recv 0 0 0,
    .addSession, .sent 1 (.ok ()) 0, .deliver 1 env 0, .recv 1 1 0]

/-- A keepalive heartbeat twenty seconds later. -/
def keepaliveRound : List Act :=
  oneSession ++ [.keepalive 20, .sent 2 (.ok ()) 20, .deliver 2 env 20, .recv 2 2 20]

theorem one_stamp_keepaliveRound :
    Meets (Link.step SmfSim.host) Steady (start simConfig boot) keepaliveRound ∧
      Always (Link.step SmfSim.host) OneStamp (start simConfig boot) keepaliveRound ∧
      Meets (Link.step SmfSim.host) (Spared SmfSim.host) (start simConfig boot) keepaliveRound := by
  have h : Meets (Link.step SmfSim.host) Steady (start simConfig boot) keepaliveRound := by
    decide +kernel
  exact ⟨h, one_stamp _ _ _ _ h⟩

/-- The `Heartbeat` command five seconds later. -/
def interactiveHeartbeat : List Act :=
  oneSession ++ [.heartbeat 5, .sent 2 (.ok ()) 5]

/-- The heartbeat carries another stamp than the setup, and costs the simulator its session. -/
theorem not_one_stamp_interactiveHeartbeat :
    ¬ Always (Link.step SmfSim.host) OneStamp (start simConfig boot)
        (interactiveHeartbeat ++ [.deliver 2 env 5]) ∧
      ¬ Meets (Link.step SmfSim.host) (Spared SmfSim.host) (start simConfig boot)
        (interactiveHeartbeat ++ [.deliver 2 env 5]) := by
  have hsent : (run (Link.step SmfSim.host) (start simConfig boot) interactiveHeartbeat).sent.map
      stamps = [[2208988800], [], [2208988805]] := by decide +kernel
  have htype : ((run (Link.step SmfSim.host) (start simConfig boot)
      interactiveHeartbeat).sent[2]?.bind fun data =>
        (PfcpHeader.decode (received data)).toOption.map (·.1.msgType)) =
      some pfcpHeartbeatReq := by
    decide +kernel
  have hbefore : ((run (Link.step SmfSim.host) (start simConfig boot)
      interactiveHeartbeat).upf.srv.associations.lookup smfA).map
        (fun assoc => (assoc.sessions.lookup 1).isSome) = some true := by decide +kernel
  have hafter : ((run (Link.step SmfSim.host) (start simConfig boot)
      (interactiveHeartbeat ++ [.deliver 2 env 5])).upf.srv.associations.lookup smfA).map
        (fun assoc => (assoc.sessions.lookup 1).isSome) = some false := by decide +kernel
  constructor
  · intro h
    have hone := h interactiveHeartbeat [.deliver 2 env 5] rfl
    generalize run (Link.step SmfSim.host) (start simConfig boot) interactiveHeartbeat = l at *
    have hmem : ∀ ts ∈ [[2208988800], [], [2208988805]], ∃ m ∈ l.sent, stamps m = ts := by
      intro ts hts
      rw [← hsent] at hts
      exact List.mem_map.mp hts
    obtain ⟨m, hm, hs⟩ := hmem [2208988800] (by decide)
    obtain ⟨m', hm', hs'⟩ := hmem [2208988805] (by decide)
    have heq := hone m hm m' hm' 2208988800 (by rw [hs]; decide) 2208988805 (by rw [hs']; decide)
    exact absurd heq (by decide)
  · intro h
    have hlast := (meets_append.mp h).2.1
    rw [run_concat] at hafter
    generalize run (Link.step SmfSim.host) (start simConfig boot) interactiveHeartbeat = l at *
    obtain ⟨data, hdata, ht⟩ := Option.bind_eq_some_iff.mp htype
    obtain ⟨⟨header, body⟩, hd, ht⟩ := Option.map_eq_some_iff.mp ht
    obtain ⟨assoc, hassoc, hsome⟩ := Option.map_eq_some_iff.mp hbefore
    have hkept := hlast data hdata header body (ok_of_toOption hd) (.inl ht) assoc hassoc
    have hkept' : (l.step SmfSim.host (.deliver 2 env 5)).upf.srv.associations.lookup smfA =
      some assoc := hkept
    rw [hkept', Option.map_some, hsome] at hafter
    cases hafter

end Link

end UpfEdge.SmfSim
