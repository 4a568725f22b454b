import UpfEdge.Keepalive
import UpfEdge.Replies
import UpfEdge.Smf.Seids

/-!
# When the keepalive task sets up its association again

The keepalive task of the simulator sets up its association again when a Heartbeat Request of it
fails, and when a Heartbeat Response shows another Recovery Time Stamp than the one it has stored.
A UPF that runs has one Recovery Time Stamp in all its responses, so the second never happens: the
association is set up again exactly once for each heartbeat that has failed, however late, often
or out of order datagrams arrive (`reassociations_eq`).
-/

namespace UpfEdge

open Lib Pfcp Server

/-! ### The responses of the UPF -/

section Responses

variable {host : Host} {a : Audit} {ev : Event}

/-- The responses to the two requests about the node. -/
theorem length_nodeResponse {env : Env} {now : Instant} {data body rsp : Bytes} {src : SocketAddr}
    {w : World} {header : PfcpHeader} (hd : PfcpHeader.decode (received data) = .ok (header, body))
    (ht : header.msgType = pfcpHeartbeatReq ∨ header.msgType = pfcpAssociationSetupReq)
    (hrsp : (receive host env now data src w).1 = .ok rsp) : rsp.length ≤ 4096 := by
  rcases ht with ht | ht
  · have hrec : receive host env now data src w =
        handleHeartbeat env header body src (touched now w) := by
      simp only [receive, handleMessage, hd, dispatch, if_pos ht]
    rw [hrec] at hrsp
    obtain rfl := Except.ok.inj hrsp
    exact length_heartbeatResponse ..
  · have hne : header.msgType ≠ pfcpHeartbeatReq := by rw [ht]; decide
    simp only [receive, handleMessage, hd, dispatch, if_neg hne, if_pos ht,
      handleSessionAssociation] at hrsp
    split at hrsp
    · cases hrsp
    · split_ifs at hrsp
      all_goals
        obtain rfl := Except.ok.inj hrsp
        exact length_setupResponse ..

/-- The types of the responses that the keepalive task waits for. -/
def NodeResponse (t : UInt8) : Prop := t = pfcpHeartbeatRsp ∨ t = pfcpAssociationSetupRsp

instance (t : UInt8) : Decidable (NodeResponse t) := inferInstanceAs (Decidable (_ ∨ _))

/-- Such a response shows the Recovery Time Stamp of the server. -/
theorem stamps_sent {m : SocketAddr × Bytes} (hm : m ∈ a.sent host ev) {hdr : PfcpHeader}
    {body : Bytes} (hd : PfcpHeader.decode (SmfSim.cut m.2) = .ok (hdr, body))
    (ht : NodeResponse hdr.msgType) :
    ∀ t ∈ stamps (SmfSim.cut m.2), t = a.srv.recoveryTs := by
  have hone : m.2[1]? = some hdr.msgType := by
    rw [← SmfSim.getElem_one_cut, PfcpHeader.getElem_one_of_decode hd]
  have hreports : ∀ {ev}, m ∉ (a.sys.handle host ev).2.map (fun r => (r.dest, r.message)) := by
    intro ev hmem
    obtain ⟨r, -, rfl⟩ := List.mem_map.mp hmem
    simp only [Report.message, buildSessionReportRequest, appendIe_eq, List.append_assoc] at hone
    rw [SmfSim.getElem_one_newSessionMsg] at hone
    rw [← Option.some.inj hone] at ht
    exact absurd ht (by decide)
  cases ev with
  | snapshot | report | uplink | downlink => exact absurd hm hreports
  | datagram env now data src =>
    simp only [Audit.sent] at hm
    split at hm
    · next r hr =>
      split_ifs at hm
      · cases hm
      obtain rfl := List.mem_singleton.mp hm
      simp only at hone hd ⊢
      cases hdec : PfcpHeader.decode (received data) with
      | error err =>
        simp only [receive, handleMessage, hdec] at hr
        cases hr
      | ok p =>
        obtain ⟨header, body'⟩ := p
        by_cases hmem : header.msgType ∈ requestTypes
        · obtain ⟨⟨header', body', hd', ht', -⟩, -⟩ := accepted_of_receive hdec hmem hr
          have htype : hdr.msgType = header.msgType + 1 := by
            rw [← ht']
            exact Option.some.inj (hone.symm.trans (PfcpHeader.getElem_one_of_decode hd'))
          have hnode : header.msgType = pfcpHeartbeatReq ∨
              header.msgType = pfcpAssociationSetupReq := by
            rw [htype] at ht
            simp only [requestTypes, List.mem_cons, List.not_mem_nil, or_false] at hmem
            rcases hmem with h | h | h | h | h
            · exact .inl h
            · exact .inr h
            · exact absurd ht (by rw [h]; decide)
            · exact absurd ht (by rw [h]; decide)
            · exact absurd ht (by rw [h]; decide)
          have hcut : SmfSim.cut r = r :=
            List.take_of_length_le (length_nodeResponse hdec hnode hr)
          have hstamps : ∀ t ∈ stamps r, t = (touched now a.world).srv.recoveryTs :=
            stamps_response hr
          rw [hcut]
          exact hstamps
        · simp only [requestTypes, List.mem_cons, List.not_mem_nil, or_false, not_or] at hmem
          obtain ⟨h1, h2, h3, h4, h5⟩ := hmem
          simp only [receive, handleMessage, hdec, dispatch, if_neg h1, if_neg h2, if_neg h3,
            if_neg h4, if_neg h5] at hr
          split_ifs at hr
          all_goals
            obtain rfl := Except.ok.inj hr
            cases hone
    · cases hm

end Responses

namespace SmfSim

theorem mem_stamps_of_extract {rsp : Bytes} {ts : UInt32} (h : extractRecoveryTs rsp = some ts) :
    ts ∈ stamps rsp := by
  unfold extractRecoveryTs at h
  split at h
  · cases h
  · next header body hd =>
    obtain ⟨raw, hfind, hparse⟩ := Option.bind_eq_some_iff.mp h
    have htype : raw.ieType = pfcpIeRecoveryTimeStamp := by simpa using List.find?_some hfind
    simp only [stamps, hd]
    exact List.mem_filterMap.mpr
      ⟨raw, List.mem_of_find?_eq_some hfind, by rw [if_pos htype, hparse]⟩

/-! ### The two counts -/

def Purpose.isReassociation : Purpose → Bool
  | .keepaliveAssociation .. => true
  | _ => false

def Phase.isFailed : Phase → Bool
  | .failed _ => true
  | _ => false

namespace Process

variable {cfg : Config}

/-- How often the keepalive task has set up the association again. -/
def reassociations (p : Process cfg) : ℕ := p.tasks.countP fun t => t.purpose.isReassociation

/-- How many of its Heartbeat Requests have failed. -/
def failedHeartbeats (p : Process cfg) : ℕ := p.tasks.countP fun t =>
  t.purpose.isKeepalive && !t.purpose.isReassociation && t.call.phase.isFailed

def Balanced (p : Process cfg) : Prop := p.reassociations = p.failedHeartbeats

/-- A call is entered, and its task has the purpose. -/
theorem begin_eq (purpose : Purpose) (p : Process cfg) : ∃ t : Task cfg, t.purpose = purpose ∧
    t.call.phase = .sending 0 ∧ p.begin purpose = { p with tasks := p.tasks ++ [t] } := by
  obtain ⟨header, hd, -⟩ := purpose.decode_message cfg
  unfold begin
  split
  · exact ⟨_, rfl, rfl, rfl⟩
  · next e he =>
    unfold Request.ofMsg at he
    split at he
    · cases he
    · next e' hd' => cases hd.symm.trans hd'

/-- A turn that at most enters calls, none of them a re-association. -/
structure Entered (p p' : Process cfg) : Prop where
  upfTs : p'.upfTs = p.upfTs
  tasks : ∃ new, p'.tasks = p.tasks ++ new ∧
    ∀ t ∈ new, t.purpose.isReassociation = false ∧ t.call.phase.isFailed = false

theorem Entered.of_eq {p p' : Process cfg} (hts : p'.upfTs = p.upfTs) (ht : p'.tasks = p.tasks) :
    Entered p p' :=
  ⟨hts, [], by rw [ht, List.append_nil], fun _ h => by cases h⟩

theorem entered_begin {purpose : Purpose} (h : purpose.isReassociation = false)
    {p q : Process cfg} (hts : q.upfTs = p.upfTs) (ht : q.tasks = p.tasks) :
    Entered p (q.begin purpose) := by
  obtain ⟨t, rfl, hphase, heq⟩ := begin_eq purpose q
  rw [heq]
  refine ⟨hts, [t], by rw [ht], fun t' ht' => ?_⟩
  rw [List.mem_singleton.mp ht', hphase]
  exact ⟨h, rfl⟩

theorem Balanced.entered {p p' : Process cfg} (h : p.Balanced) (he : Entered p p') :
    p'.Balanced := by
  obtain ⟨-, new, htasks, hnew⟩ := he
  have h1 : new.countP (fun t => t.purpose.isReassociation) = 0 :=
    List.countP_eq_zero.mpr fun t ht => by rw [(hnew t ht).1]; simp
  have h2 : new.countP (fun t => t.purpose.isKeepalive && !t.purpose.isReassociation &&
      t.call.phase.isFailed) = 0 :=
    List.countP_eq_zero.mpr fun t ht => by rw [(hnew t ht).2]; simp
  rw [Balanced, reassociations, failedHeartbeats, htasks, List.countP_append, List.countP_append,
    h1, h2]
  exact h

theorem getRecoveryTs_keeps (clock : UInt32) (p : Process cfg) :
    (p.getRecoveryTs clock).2.upfTs = p.upfTs ∧ (p.getRecoveryTs clock).2.tasks = p.tasks := by
  unfold getRecoveryTs
  split <;> exact ⟨rfl, rfl⟩

/-! ### Commands -/

theorem entered_addSession (p : Process cfg) : Entered p p.addSession := by
  unfold addSession
  simp only
  split
  · exact .of_eq rfl rfl
  · exact entered_begin rfl rfl rfl

theorem entered_delSession (seid : UInt64) (p : Process cfg) : Entered p (p.delSession seid) := by
  unfold delSession
  split
  · exact .of_eq rfl rfl
  · exact entered_begin rfl rfl rfl

theorem entered_heartbeat (clock : UInt32) (p : Process cfg) : Entered p (p.heartbeat clock) :=
  entered_begin rfl rfl rfl

theorem entered_associate (clock : UInt32) (p : Process cfg) : Entered p (p.associate clock) := by
  obtain ⟨hts, ht⟩ := p.getRecoveryTs_keeps clock
  exact entered_begin rfl hts ht

theorem entered_keepalive (clock : UInt32) (p : Process cfg) : Entered p (p.keepalive clock) := by
  unfold keepalive
  split_ifs
  · exact .of_eq rfl rfl
  · obtain ⟨hts, ht⟩ :=
      getRecoveryTs_keeps clock { p with keepaliveSeq := p.keepaliveSeq + 1 }
    exact entered_begin rfl hts ht

/-- The association is set up again. -/
theorem counts_reassociate (clock : UInt32) (p : Process cfg) :
    (p.reassociate clock).reassociations = p.reassociations + 1 ∧
      (p.reassociate clock).failedHeartbeats = p.failedHeartbeats ∧
      (p.reassociate clock).upfTs = p.upfTs := by
  obtain ⟨hts, ht⟩ := getRecoveryTs_keeps clock { p with keepaliveSeq := p.keepaliveSeq + 1 }
  obtain ⟨t, hpurpose, hphase, heq⟩ := begin_eq
    (.keepaliveAssociation p.keepaliveSeq
      (getRecoveryTs clock { p with keepaliveSeq := p.keepaliveSeq + 1 }).1)
    (getRecoveryTs clock { p with keepaliveSeq := p.keepaliveSeq + 1 }).2
  have hre : p.reassociate clock = _ := heq
  rw [hre, reassociations, failedHeartbeats, ht]
  refine ⟨?_, ?_, hts⟩
  · rw [List.countP_append, List.countP_singleton, hpurpose]
    rfl
  · rw [List.countP_append, List.countP_singleton, hpurpose]
    rfl

/-! ### The end of a call -/

/-- A task is replaced in a list. -/
theorem countP_set_add {tasks : List (Task cfg)} {i : ℕ} {t : Task cfg} (f : Task cfg → Bool)
    (t' : Task cfg) (hi : tasks[i]? = some t) : (tasks.set i t').countP f + (if f t then 1 else 0) =
      tasks.countP f + (if f t' then 1 else 0) := by
  obtain ⟨hlt, rfl⟩ := List.getElem?_eq_some_iff.mp hi
  have hpos : (if f tasks[i] then 1 else 0) ≤ tasks.countP f := by
    split_ifs with hf
    · exact List.countP_pos_iff.mpr ⟨_, List.getElem_mem hlt, hf⟩
    · exact Nat.zero_le _
  rw [List.countP_set hlt]
  omega

/-- The stamp that the task has stored, if any, is that of the UPF. -/
def Knows (ts : UInt32) (p : Process cfg) : Prop := p.upfTs = 0 ∨ p.upfTs = ts

/-- What follows on the end of a call: a heartbeat that has failed sets up the association again,
nothing else does. -/
theorem conclude_cases {ts : UInt32} (clock : UInt32) {purpose : Purpose} {phase : Phase}
    {p : Process cfg} (hknows : p.Knows ts)
    (hrsp : ∀ rsp recv, phase = .returned rsp → purpose.isKeepalive →
      extractRecoveryTs rsp = some recv → recv = ts) :
    (purpose.isKeepalive && !purpose.isReassociation && phase.isFailed) = true ∧
        p.conclude clock purpose phase = p.reassociate clock ∨
      (purpose.isKeepalive && !purpose.isReassociation && phase.isFailed) = false ∧
        (p.conclude clock purpose phase).tasks = p.tasks ∧
        (p.conclude clock purpose phase).Knows ts := by
  cases purpose with
  | addSession seq cpSeid ueIp gnbTeid =>
    refine .inr ⟨rfl, ?_⟩
    cases phase with
    | returned rsp =>
      simp only [conclude]
      split <;> exact ⟨rfl, hknows⟩
    | sending | receiving | failed => exact ⟨rfl, hknows⟩
  | delSession seid upfSeid seq => cases phase <;> exact .inr ⟨rfl, rfl, hknows⟩
  | heartbeat seq stamp => cases phase <;> exact .inr ⟨rfl, rfl, hknows⟩
  | association stamp => cases phase <;> exact .inr ⟨rfl, rfl, hknows⟩
  | keepaliveHeartbeat seq stamp =>
    cases phase with
    | failed e => exact .inl ⟨rfl, rfl⟩
    | sending | receiving => exact .inr ⟨rfl, rfl, hknows⟩
    | returned rsp =>
      refine .inr ⟨rfl, ?_⟩
      simp only [conclude]
      cases hrecv : extractRecoveryTs rsp with
      | none => exact ⟨rfl, hknows⟩
      | some recv =>
        have hsame : recv = ts := hrsp rsp recv rfl rfl hrecv
        simp only
        split_ifs with hzero hne
        · exact ⟨rfl, .inr hsame⟩
        · exact absurd (hknows.resolve_left hzero) (hsame ▸ hne)
        · exact ⟨rfl, hknows⟩
  | keepaliveAssociation seq stamp =>
    refine .inr ⟨rfl, ?_⟩
    cases phase with
    | returned rsp =>
      simp only [conclude]
      split
      · next recv _ hrecv => exact ⟨rfl, .inr (hrsp rsp recv rfl rfl hrecv)⟩
      · exact ⟨rfl, hknows⟩
    | sending | receiving | failed => exact ⟨rfl, hknows⟩

/-- A task goes on. -/
theorem Balanced.advance {ts : UInt32} (clock : UInt32) {p : Process cfg} {i : ℕ}
    {t t' : Task cfg} (h : p.Balanced) (hknows : p.Knows ts) (hi : p.tasks[i]? = some t)
    (hp : t'.purpose = t.purpose) (hidle : t.call.phase.running = false → t' = t)
    (hrsp : ∀ rsp recv, t'.call.phase = .returned rsp → t.call.phase.running →
      t.purpose.isKeepalive → extractRecoveryTs rsp = some recv → recv = ts) :
    (p.advance clock i t t').Balanced ∧ (p.advance clock i t t').Knows ts := by
  cases hrun : t.call.phase.running with
  | false =>
    obtain rfl := hidle hrun
    have hset : p.tasks.set i t' = p.tasks := by
      obtain ⟨hlt, rfl⟩ := List.getElem?_eq_some_iff.mp hi
      exact List.set_getElem_self hlt
    have heq : p.advance clock i t' t' = p := by
      simp only [Process.advance, hrun, hset]
      rfl
    rw [heq]
    exact ⟨h, hknows⟩
  | true =>
    have hnot : t.call.phase.isFailed = false := by
      cases hphase : t.call.phase with
      | failed e => rw [hphase] at hrun; cases hrun
      | sending | receiving | returned => rfl
    set q : Process cfg := { p with tasks := p.tasks.set i t' }
    have hre : q.reassociations = p.reassociations := by
      have hadd := countP_set_add (fun t => t.purpose.isReassociation) t' hi
      rw [hp] at hadd
      exact Nat.add_right_cancel hadd
    have hfail : q.failedHeartbeats = p.failedHeartbeats +
        if (t'.purpose.isKeepalive && !t'.purpose.isReassociation && t'.call.phase.isFailed) = true
        then 1 else 0 := by
      have hadd := countP_set_add (fun t => t.purpose.isKeepalive && !t.purpose.isReassociation &&
        t.call.phase.isFailed) t' hi
      rw [hnot, Bool.and_false, if_neg Bool.false_ne_true] at hadd
      exact hadd
    have hknows' : q.Knows ts := hknows
    rw [Process.advance, hrun, Bool.true_and]
    cases hrun' : t'.call.phase.running with
    | true =>
      have hlost : t'.call.phase.isFailed = false := by
        cases hphase : t'.call.phase with
        | failed e => rw [hphase] at hrun'; cases hrun'
        | sending | receiving | returned => rfl
      rw [hlost, Bool.and_false, if_neg Bool.false_ne_true] at hfail
      exact ⟨hre.trans (h.trans hfail.symm), hknows⟩
    | false =>
      rw [Bool.not_false, if_pos rfl]
      rcases conclude_cases clock hknows' fun rsp recv hphase hkeep =>
        hrsp rsp recv hphase hrun (hp ▸ hkeep) with ⟨hlost, heq⟩ | ⟨hlost, htasks, hknows''⟩
      · obtain ⟨h1, h2, h3⟩ := counts_reassociate clock q
        rw [if_pos hlost] at hfail
        rw [heq]
        refine ⟨?_, hknows'.imp (h3.trans ·) (h3.trans ·)⟩
        rw [Balanced, h1, h2, hre, hfail, h]
      · rw [hlost, if_neg Bool.false_ne_true] at hfail
        refine ⟨?_, hknows''⟩
        rw [Balanced, reassociations, failedHeartbeats, htasks]
        exact hre.trans (h.trans hfail.symm)

end Process

/-! ### Calls that are over -/

section Over

variable {cfg : Config} {t : Task cfg}

theorem onSent_of_over {result : Except String Unit} (h : t.call.phase.running = false) :
    t.onSent result = t := by
  obtain ⟨purpose, ⟨req, phase⟩, sends⟩ := t
  cases phase with
  | sending | receiving => cases h
  | returned | failed => rfl

theorem onLapse_of_over {e : CallError} (h : t.call.phase.running = false) : t.onLapse e = t := by
  obtain ⟨purpose, ⟨req, phase⟩, sends⟩ := t
  cases phase with
  | sending | receiving => cases h
  | returned | failed => rfl

end Over

/-! ### The keepalive task and the UPF -/

namespace Link

variable {cfg : Config}

/-- The counts agree, the stored stamp is that of the UPF, and so are the stamps under way. -/
structure Vigilant (l : Link cfg) : Prop where
  balanced : l.smf.Balanced
  knows : l.smf.Knows l.upf.srv.recoveryTs
  told : ∀ d ∈ l.inbox, ∀ header body, PfcpHeader.decode d = .ok (header, body) →
    NodeResponse header.msgType → ∀ t ∈ stamps d, t = l.upf.srv.recoveryTs

/-- Nobody else answers for the UPF. -/
def Genuine (_ : Link cfg) : Act → Prop
  | .stray data => ∀ p ∈ (PfcpHeader.decode data).toOption, ¬ NodeResponse p.1.msgType
  | _ => True

instance (l : Link cfg) : ∀ act, Decidable (l.Genuine act)
  | .stray _ => Option.decidableForallMem _
  | .addSession | .delSession _ | .heartbeat _ | .associate _ | .keepalive _ | .sent .. | .recv ..
  | .lapse .. | .deliver .. | .upf _ => inferInstanceAs (Decidable True)

theorem start_vigilant (cfg : Config) (b : Boot) : (start cfg b).Vigilant where
  balanced := rfl
  knows := .inl rfl
  told := fun _ h => by cases h

section Step

variable {host : Host} {l : Link cfg}

theorem Vigilant.upfStep (h : l.Vigilant) (ev : Event) : (l.upfStep host ev).Vigilant := by
  have hts : (l.upf.step host ev).srv.recoveryTs = l.upf.srv.recoveryTs :=
    (step_settings host l.upf ev).2.1
  refine ⟨h.balanced, ?_, fun d hd header body hdec ht t hmem => ?_⟩
  · exact h.knows.imp_right fun hk => hk.trans hts.symm
  · refine Eq.trans ?_ hts.symm
    rcases List.mem_append.mp hd with hd | hd
    · exact h.told d hd header body hdec ht t hmem
    · obtain ⟨m, hm, rfl⟩ := List.mem_map.mp hd
      exact stamps_sent hm hdec ht t hmem

/-- A command, or a keepalive that is due. -/
theorem Vigilant.entered (h : l.Vigilant) {p' : Process cfg} (he : Process.Entered l.smf p') :
    Vigilant { l with smf := p' } where
  balanced := h.balanced.entered he
  knows := h.knows.imp (he.upfTs.trans ·) (he.upfTs.trans ·)
  told := h.told

/-- A task goes on. -/
theorem Vigilant.smfStep (h : l.Vigilant) (clock : UInt32) {i : ℕ} {t : Task cfg}
    (t' : Task cfg) (hi : l.smf.tasks[i]? = some t) (hp : t'.purpose = t.purpose)
    (hidle : t.call.phase.running = false → t' = t)
    (hrsp : ∀ rsp, t'.call.phase = .returned rsp → t.call.phase.running →
      t.purpose.isKeepalive → rsp ∈ l.inbox ∧ ∃ header body,
        PfcpHeader.decode rsp = .ok (header, body) ∧ NodeResponse header.msgType)
    (out : List Bytes) : (l.smfStep clock i t t' out).Vigilant := by
  obtain ⟨hbal, hknows⟩ := h.balanced.advance clock h.knows hi hp hidle
    fun rsp recv hphase hrun hkeep hrecv => by
      obtain ⟨hmem, header, body, hd, ht⟩ := hrsp rsp hphase hrun hkeep
      exact h.told rsp hmem header body hd ht recv (mem_stamps_of_extract hrecv)
  exact ⟨hbal, hknows, h.told⟩

/-- What a keepalive call waits for. -/
theorem nodeResponse_of_isKeepalive {t : Task cfg} (h : t.purpose.isKeepalive) :
    NodeResponse t.call.req.expectedRspType := by
  rw [expectedRspType_eq]
  cases hp : t.purpose with
  | keepaliveHeartbeat | keepaliveAssociation =>
    simp only [Purpose.msgType]
    decide
  | addSession | delSession | heartbeat | association => rw [hp] at h; cases h

theorem Vigilant.step (h : l.Vigilant) {act : Act} (hg : l.Genuine act) :
    (l.step host act).Vigilant := by
  cases act with
  | addSession => exact h.entered l.smf.entered_addSession
  | delSession seid => exact h.entered (Process.entered_delSession seid _)
  | heartbeat clock => exact h.entered (Process.entered_heartbeat clock _)
  | associate clock => exact h.entered (Process.entered_associate clock _)
  | keepalive clock => exact h.entered (Process.entered_keepalive clock _)
  | sent i result clock =>
    simp only [Link.step]
    split
    · exact h
    · next t hi =>
      refine h.smfStep clock (t.onSent result) hi rfl onSent_of_over (fun rsp hphase hrun => ?_) _
      exact absurd hphase (Call.onSent_ne_returned hrun rsp)
  | lapse i e clock =>
    simp only [Link.step]
    split
    · exact h
    · next t hi =>
      refine h.smfStep clock (t.onLapse e) hi rfl onLapse_of_over (fun rsp hphase hrun => ?_) _
      exact absurd hphase (Call.onLapse_ne_returned hrun rsp)
  | recv i k clock =>
    simp only [Link.step]
    cases hi : l.smf.tasks[i]? with
    | none => exact h
    | some t =>
      cases hk : l.inbox[k]? with
      | none => exact h
      | some data =>
        cases hphase : t.call.phase with
        | receiving attempt =>
          have hrun : t.call.phase.running = true := by rw [hphase]; rfl
          have hidle : t.call.phase.running = false → (t.onDatagram clock data).1 = t :=
            fun hover => by rw [hrun] at hover; cases hover
          have hstep : (l.smfStep clock i t (t.onDatagram clock data).1
              (t.onDatagram clock data).2.toList).Vigilant := by
            refine h.smfStep clock (t.onDatagram clock data).1 hi rfl hidle
              (fun rsp hrsp _ hkeep => ?_) _
            obtain ⟨rfl, header, body, hd, ht⟩ := Call.of_onDatagram_returned hrun hrsp
            exact ⟨List.mem_of_getElem? hk, header, body, hd,
              ht ▸ nodeResponse_of_isKeepalive hkeep⟩
          simp only [hphase]
          split_ifs
          · exact hstep.entered (.of_eq rfl rfl)
          · exact hstep
        | sending | returned | failed =>
          simp only [hphase]
          exact h
  | stray data =>
    simp only [Link.step]
    split_ifs
    · exact h
    · refine ⟨h.balanced, h.knows, fun d hd header body hdec ht t hmem => ?_⟩
      rcases List.mem_append.mp hd with hd | hd
      · exact h.told d hd header body hdec ht t hmem
      · obtain rfl := List.mem_singleton.mp hd
        exact absurd ht (hg (header, body) (by rw [hdec]; rfl))
  | deliver k env now =>
    simp only [Link.step]
    split
    · exact h
    · exact h.upfStep _
  | upf ev =>
    cases ev with
    | datagram => exact h
    | snapshot | report | uplink | downlink => exact h.upfStep _

end Step

/-- **A running UPF is not taken for a restarted one.**  As long as nobody else answers for the UPF,
the simulator sets up its association again exactly once for each Heartbeat Request that has
failed, and the stamp it has stored is that of the UPF. -/
theorem reassociations_eq (host : Host) (cfg : Config) (b : Boot) (acts : List Act)
    (h : Meets (Link.step host) Genuine (start cfg b) acts) :
    let l := run (Link.step host) (start cfg b) acts
    l.smf.reassociations = l.smf.failedHeartbeats ∧
      (l.smf.upfTs = 0 ∨ l.smf.upfTs = l.upf.srv.recoveryTs) := by
  have hv : (run (Link.step host) (start cfg b) acts).Vigilant :=
    run_inv (fun _ _ hl hg => hl.step hg) (start_vigilant cfg b) h
  exact ⟨hv.balanced, hv.knows⟩

/-- A heartbeat that is answered, and one that fails four times. -/
def lostHeartbeat : List Act :=
  [.keepalive 7, .sent 0 (.ok ()) 7, .deliver 0 env 0, .recv 0 0 7,
    .keepalive 8, .sent 1 (.ok ()) 8, .lapse 1 (.timeout 5) 8, .sent 1 (.error "down") 8]

/-- The association is set up again once. -/
theorem reassociations_eq_lostHeartbeat :
    (run (Link.step host) (start simConfig boot) lostHeartbeat).smf.reassociations = 1 := by
  rw [(reassociations_eq host simConfig boot lostHeartbeat (by decide +kernel)).1]
  decide +kernel

end Link

end SmfSim

end UpfEdge
