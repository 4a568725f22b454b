import Mathlib.Data.List.Induction
import UpfEdge.Ledger
import UpfEdge.Server.Modification

/-!
# The session table, event by event

What an event does to the session table, to the two counters and to the tasks of the session store:
nothing; only to the counters, for an establishment that is refused; or it is an accepted
establishment, deletion or modification (`Booked`).  A modification gives the session the tunnel
that the last of its Update FARs on the gNB's side names (`moved`), and spawns no task.

The address of the N3 interface, the Recovery Time Stamp and the choice of a session store never
change (`step_settings`).
-/

namespace UpfEdge

open Lib Pfcp Server

/-! ### Modifications -/

/-- A session after the Update FARs of a modification. -/
def moved (fars : List ParsedFAR) (session : SessionData) : SessionData :=
  (fars.filterMap accessTunnel).foldl (fun data ohc => setSession ohc data) session

/-- The last tunnel counts. -/
theorem moved_eq (fars : List ParsedFAR) (session : SessionData) :
    moved fars session = match (fars.filterMap accessTunnel).getLast? with
      | some ohc => setSession ohc session
      | none => session := by
  unfold moved
  generalize fars.filterMap accessTunnel = tunnels
  induction tunnels using List.reverseRecOn with
  | nil => rfl
  | append_singleton tunnels ohc ih =>
    rw [List.foldl_concat, ih, List.getLast?_concat]
    cases tunnels.getLast? <;> rfl

theorem setSession_eq_self {ohc : OuterHeaderCreation} {session : SessionData} :
    setSession ohc session = session ↔ ohc.peerAddr = session.gnbIp ∧ ohc.teid = session.teid := by
  obtain ⟨ueIp, teid, gnbIp, cpSeid⟩ := session
  simp [setSession, and_comm]

theorem moved_cpSeid (fars : List ParsedFAR) (session : SessionData) :
    (moved fars session).cpSeid = session.cpSeid := by
  rw [moved_eq]
  split <;> rfl

theorem moved_ueIp (fars : List ParsedFAR) (session : SessionData) :
    (moved fars session).ueIp = session.ueIp := by
  rw [moved_eq]
  split <;> rfl

/-- The session table after an accepted modification. -/
theorem lookup_modifySession {e : Endian} {seid : UInt64} {session : SessionData} {ueIp : Ipv4Addr}
    {w : World} (hlive : w.srv.sessions.lookup seid = some session) (req : SessionModificationReq)
    (s : UInt64) :
    (modifySession e seid ueIp req w).srv.sessions.lookup s =
      if s = seid then some (moved req.updateFars session) else w.srv.sessions.lookup s := by
  rw [modifySession_sessions, foldl_overwrite_eq setSession_setSession, accessWrites_eq]
  split_ifs with hs
  · rw [hs, hlive, lastPut_const, moved_eq]
    cases (req.updateFars.filterMap accessTunnel).getLast? <;> rfl
  · have hother : lastPut ((req.updateFars.filterMap accessTunnel).map fun ohc => (seid, ohc)) s =
        none := by
      refine lastPut_eq_none_iff.mpr fun hmem => hs ?_
      rw [List.map_map] at hmem
      obtain ⟨ohc, -, rfl⟩ := List.mem_map.mp hmem
      rfl
    rw [hother]
    exact Option.map_id'

namespace Audit

/-- The modification of an event that is accepted. -/
def modification (a : Audit) : Event → Option (UInt64 × SessionData × SessionModificationReq)
  | .datagram env _ data src =>
    match PfcpHeader.decode (received data) with
    | .ok (header, body) =>
      if header.msgType = pfcpSessionModificationReq then modifies env header body src a.world
      else none
    | .error _ => none
  | _ => none

/-- The event is a datagram that gets a response. -/
def answered (host : Host) (a : Audit) : Event → Bool
  | .datagram env now data src => (receive host env now data src a.world).1.toOption.isSome
  | _ => false

end Audit

/-! ### Settings -/

/-- What the inserts of an establishment leave of the server and the tasks. -/
theorem srv_of_install {ss : List InstallStep} {w w' : World} {ok : Bool}
    (h : install ss w = (ok, w')) :
    w'.srv = { w.srv with urrConfigs := w'.srv.urrConfigs } ∧ w'.tasks = w.tasks := by
  obtain ⟨hsrv, -, htasks, -⟩ := install_srv ss w
  rw [h] at hsrv htasks
  exact ⟨hsrv, htasks⟩

theorem step_settings (host : Host) (a : Audit) (ev : Event) :
    (a.step host ev).srv.n3Addr = a.srv.n3Addr ∧
      (a.step host ev).srv.recoveryTs = a.srv.recoveryTs ∧
      (a.step host ev).srv.sessionStore = a.srv.sessionStore := by
  cases ev with
  | snapshot order =>
    simp only [Audit.step, System.step, System.handle]
    split <;> exact ⟨rfl, rfl, rfl⟩
  | report clock =>
    simp only [Audit.step, System.step, System.handle]
    split
    · exact ⟨rfl, rfl, rfl⟩
    · next totals _ =>
      have hsrv := report_srv clock totals a.srv
      exact ⟨by rw [Audit.srv, Audit.world, hsrv], by rw [Audit.srv, Audit.world, hsrv],
        by rw [Audit.srv, Audit.world, hsrv]⟩
  | uplink | downlink => exact ⟨rfl, rfl, rfl⟩
  | datagram env now data src =>
    have htr := receive_transition host env now data src a.world
    have hw : (a.step host (.datagram env now data src)).world =
      (receive host env now data src a.world).2 := rfl
    rw [Audit.srv, hw]
    generalize receive host env now data src a.world = out at htr
    obtain ⟨r, w'⟩ := out
    simp only at htr ⊢
    cases htr with
    | idle | heartbeat | setup | refused | deleted => exact ⟨rfl, rfl, rfl⟩
    | interrupted req assoc ueIp gnbInfo _ hest hset hue hgnb hinst =>
      rw [(srv_of_install hinst).1]
      exact ⟨rfl, rfl, rfl⟩
    | established req assoc ueIp gnbInfo w' hest hset hue hgnb hinst =>
      simp only [registerSession]
      rw [(srv_of_install hinst).1]
      exact ⟨rfl, rfl, rfl⟩
    | modified seid session assoc req hest hset htarget hlive hfind hown =>
      rw [(modifySession_rest req).1]
      exact ⟨rfl, rfl, rfl⟩

/-! ### Sessions -/

/-- What an event does to the session table, the counters and the tasks. -/
inductive Booked (host : Host) (a : Audit) (ev : Event) (a' : Audit) : Prop
  | idle (hiss : ¬ a.Issues ev) (hmod : a.modification ev = none)
    (hs : a'.srv.sessions = a.srv.sessions) (ht : a'.world.tasks = a.world.tasks)
    (hseid : a'.srv.nextSeid = a.srv.nextSeid) (hteid : a'.srv.nextTeid = a.srv.nextTeid)
  | refused (hiss : a.Issues ev) (hmod : a.modification ev = none)
    (hanswer : a.answered host ev = false)
    (hs : a'.srv.sessions = a.srv.sessions) (ht : a'.world.tasks = a.world.tasks)
    (hseid : a'.srv.nextSeid = a.srv.nextSeid + 1) (hteid : a'.srv.nextTeid = a.srv.nextTeid + 1)
  | established (hiss : a.Issues ev) (hmod : a.modification ev = none)
    (hanswer : a.answered host ev = true) (data : SessionData) (hdata : data.teid = a.srv.nextTeid)
    (hs : a'.srv.sessions = a.srv.sessions.insert a.srv.nextSeid data)
    (ht : a'.world.tasks = if a.srv.sessionStore then a.world.tasks ++ [.save a.srv.nextSeid data]
      else a.world.tasks)
    (hseid : a'.srv.nextSeid = a.srv.nextSeid + 1) (hteid : a'.srv.nextTeid = a.srv.nextTeid + 1)
  | deleted (hiss : ¬ a.Issues ev) (hmod : a.modification ev = none) (seid : UInt64)
    (hs : a'.srv.sessions = a.srv.sessions.erase seid)
    (ht : a'.world.tasks = if a.srv.sessionStore then a.world.tasks ++ [.delete seid]
      else a.world.tasks)
    (hseid : a'.srv.nextSeid = a.srv.nextSeid) (hteid : a'.srv.nextTeid = a.srv.nextTeid)
  | modified (hiss : ¬ a.Issues ev) (seid : UInt64) (session : SessionData)
    (req : SessionModificationReq) (hmod : a.modification ev = some (seid, session, req))
    (hlive : a.Live seid session)
    (hs : ∀ s, a'.srv.sessions.lookup s =
      if s = seid then some (moved req.updateFars session) else a.srv.sessions.lookup s)
    (ht : a'.world.tasks = a.world.tasks)
    (hseid : a'.srv.nextSeid = a.srv.nextSeid) (hteid : a'.srv.nextTeid = a.srv.nextTeid)

section Datagram

variable {host : Host} {a : Audit} {env : Env} {now : Instant} {data : Bytes} {src : SocketAddr}
  {header : PfcpHeader} {body : Bytes}

theorem modification_eq_none (hd : PfcpHeader.decode (received data) = .ok (header, body))
    (h : header.msgType ≠ pfcpSessionModificationReq) :
    a.modification (.datagram env now data src) = none := by
  simp [Audit.modification, hd, h]

theorem not_issues (hd : PfcpHeader.decode (received data) = .ok (header, body))
    (h : header.msgType ≠ pfcpSessionEstablishmentReq) :
    ¬ a.Issues (.datagram env now data src) := by
  change ¬ (establishes env (received data) src a.world).isSome
  rw [establishes_eq_none hd h]
  decide

theorem of_issues (h : a.Issues (.datagram env now data src)) : ∃ header body,
    PfcpHeader.decode (received data) = .ok (header, body) ∧
      header.msgType = pfcpSessionEstablishmentReq := by
  cases hd : PfcpHeader.decode (received data) with
  | error err =>
    have hnone : establishes env (received data) src a.world = none := by
      simp [establishes, establishmentOf, hd]
    change (establishes env (received data) src a.world).isSome at h
    rw [hnone] at h
    cases h
  | ok p =>
    refine ⟨p.1, p.2, rfl, ?_⟩
    by_contra hne
    exact not_issues hd hne h

/-- An establishment that gets a SEID: it names no UE address or no gNB and is refused, or it goes
through its inserts, and it is answered if all of them are made. -/
theorem issues_cases (host : Host) (hiss : a.Issues (.datagram env now data src)) :
    ∃ req assoc, establishes env (received data) src a.world = some (req, assoc) ∧
      ((a.answered host (.datagram env now data src) = false ∧
          a.admission (.datagram env now data src) = none ∧
          (a.step host (.datagram env now data src)).world = allocated (touched now a.world)) ∨
        ∃ ueIp gnbInfo w', req.createPdrs.findSome? (·.ueIp) = some ueIp ∧
          req.createFars.findSome? (·.outerHeaderCreation) = some gnbInfo ∧
          install (installSteps host.endian env a.srv.n3Addr a.srv.nextSeid a.srv.nextTeid ueIp
            gnbInfo req) (allocated (touched now a.world)) =
              (a.answered host (.datagram env now data src), w') ∧
          (a.step host (.datagram env now data src)).world =
            if a.answered host (.datagram env now data src) then
              registerSession assoc.nodeId a.srv.nextSeid
                { ueIp, teid := a.srv.nextTeid, gnbIp := gnbInfo.peerAddr, cpSeid := req.cpSeid } w'
            else w') := by
  obtain ⟨⟨req, assoc⟩, hest⟩ := Option.isSome_iff_exists.mp hiss
  have hest' : establishes env (received data) src a.world = some (req, assoc) := hest
  have hw : (a.step host (.datagram env now data src)).world =
    (receive host env now data src a.world).2 := rfl
  have hanswer : a.answered host (.datagram env now data src) =
    (receive host env now data src a.world).1.toOption.isSome := rfl
  refine ⟨req, assoc, hest, ?_⟩
  rcases establishment_outcomes host now hest' with ⟨hnone, err, hrec⟩ |
    ⟨ueIp, gnbInfo, hue, hgnb, made, w', hinst, ⟨rfl, err, hrec⟩ | ⟨rfl, rsp, hrec⟩⟩
  all_goals rw [hrec] at hw hanswer
  · have hadm : a.admission (.datagram env now data src) = none := by
      simp only [Audit.admission, hest', Option.bind_some]
      rcases hnone with hnone | hnone
      · rw [hnone]
        cases req.createFars.findSome? (·.outerHeaderCreation) <;> rfl
      · rw [hnone]
        rfl
    exact .inl ⟨hanswer, hadm, hw⟩
  · have hfalse : a.answered host (.datagram env now data src) = false := hanswer
    rw [hfalse]
    exact .inr ⟨ueIp, gnbInfo, w', hue, hgnb, hinst, hw⟩
  · have htrue : a.answered host (.datagram env now data src) = true := hanswer
    rw [htrue]
    exact .inr ⟨ueIp, gnbInfo, w', hue, hgnb, hinst, hw⟩

/-- A datagram that gets no SEID: it is a modification or a deletion, or it changes nothing but the
associations and the address that reports are sent to. -/
theorem unissued_cases (host : Host) (hiss : ¬ a.Issues (.datagram env now data src)) :
    (a.modification (.datagram env now data src) = none ∧
        deletes env (received data) src a.world = none ∧ ∃ associations peerAddr,
          (a.step host (.datagram env now data src)).world = { a.world with
            srv := { a.srv.touchActivity now with associations, peerAddr } }) ∨
      ∃ header body, PfcpHeader.decode (received data) = .ok (header, body) ∧
        ((header.msgType = pfcpSessionModificationReq ∧
            (a.step host (.datagram env now data src)).world =
              (handleSessionModification host.endian env header body src
                (touched now a.world)).2) ∨
          (header.msgType = pfcpSessionDeletionReq ∧
            (a.step host (.datagram env now data src)).world =
              (handleSessionDeletion host.endian env header src (touched now a.world)).2)) := by
  have hw : (a.step host (.datagram env now data src)).world =
    (handleMessage host.endian env (received data) src (touched now a.world)).2 := rfl
  generalize a.step host (.datagram env now data src) = a' at hw ⊢
  unfold handleMessage at hw
  cases hd : PfcpHeader.decode (received data) with
  | error err =>
    rw [hd] at hw
    exact .inl ⟨by simp [Audit.modification, hd], by simp [deletes, deletionOf, hd], _, _, hw⟩
  | ok p =>
    obtain ⟨header, body⟩ := p
    simp only [hd] at hw
    by_cases h4 : header.msgType = pfcpSessionModificationReq
    · rw [dispatch_modification h4] at hw
      exact .inr ⟨header, body, rfl, .inl ⟨h4, hw⟩⟩
    by_cases h5 : header.msgType = pfcpSessionDeletionReq
    · rw [dispatch_deletion h5] at hw
      exact .inr ⟨header, body, rfl, .inr ⟨h5, hw⟩⟩
    refine .inl ⟨modification_eq_none hd h4, by simp [deletes, deletionOf, hd, h5], ?_⟩
    unfold dispatch at hw
    rw [if_neg h4, if_neg h5] at hw
    split_ifs at hw with h1 h2 h3 h6 h7
    · exact ⟨_, _, hw⟩
    · unfold handleSessionAssociation at hw
      cases hreq : AssociationSetupReq.decode body with
      | error err =>
        rw [hreq] at hw
        exact ⟨_, _, hw⟩
      | ok req =>
        simp only [hreq] at hw
        split_ifs at hw <;> exact ⟨_, _, hw⟩
    · have hest : establishes env (received data) src (touched now a.world) = none :=
        Option.not_isSome_iff_eq_none.mp hiss
      obtain ⟨err, heq⟩ : ∃ err, handleSessionEstablishment host.endian env header body src
          (touched now a.world) = (.error err, touched now a.world) :=
        establishment_of_none hd h3 hest
      rw [heq] at hw
      exact ⟨_, _, hw⟩
    all_goals exact ⟨_, _, hw⟩

/-- An establishment that gets a SEID. -/
theorem issues_booked (host : Host) (hiss : a.Issues (.datagram env now data src)) :
    Booked host a (.datagram env now data src) (a.step host (.datagram env now data src)) := by
  obtain ⟨header, body, hd, ht⟩ := of_issues hiss
  have hmod : a.modification (.datagram env now data src) = none :=
    modification_eq_none hd (by rw [ht]; decide)
  obtain ⟨req, assoc, -, ⟨hanswer, -, hw⟩ | ⟨ueIp, gnbInfo, w', -, -, hinst, hw⟩⟩ :=
    issues_cases host hiss
  · refine .refused hiss hmod hanswer ?_ ?_ ?_ ?_
    · rw [Audit.srv, hw]; rfl
    · rw [hw]; rfl
    · rw [Audit.srv, hw]; rfl
    · rw [Audit.srv, hw]; rfl
  · obtain ⟨hsrv, htasks⟩ := srv_of_install hinst
    cases hanswer : a.answered host (.datagram env now data src) with
    | false =>
      rw [hanswer, if_neg Bool.false_ne_true] at hw
      refine .refused hiss hmod hanswer ?_ ?_ ?_ ?_
      · rw [Audit.srv, hw, hsrv]; rfl
      · rw [hw, htasks]; rfl
      · rw [Audit.srv, hw, hsrv]; rfl
      · rw [Audit.srv, hw, hsrv]; rfl
    | true =>
      rw [hanswer, if_pos rfl] at hw
      refine .established hiss hmod hanswer
        { ueIp, teid := a.srv.nextTeid, gnbIp := gnbInfo.peerAddr, cpSeid := req.cpSeid } rfl
        ?_ ?_ ?_ ?_
      · rw [Audit.srv, hw, registerSession, hsrv]; rfl
      · rw [hw, registerSession, hsrv, htasks]; rfl
      · rw [Audit.srv, hw, registerSession, hsrv]; rfl
      · rw [Audit.srv, hw, registerSession, hsrv]; rfl

/-- A datagram that leaves the session table, the counters and the tasks alone. -/
theorem booked_of_same {w' : World} (hiss : ¬ a.Issues (.datagram env now data src))
    (hmod : a.modification (.datagram env now data src) = none) {a' : Audit}
    (hw : a'.world = w') (hs : w'.srv.sessions = a.srv.sessions)
    (ht : w'.tasks = a.world.tasks) (hseid : w'.srv.nextSeid = a.srv.nextSeid)
    (hteid : w'.srv.nextTeid = a.srv.nextTeid) : Booked host a (.datagram env now data src) a' := by
  subst hw
  exact .idle hiss hmod hs ht hseid hteid

theorem modification_booked {a' : Audit} (hiss : ¬ a.Issues (.datagram env now data src))
    (hd : PfcpHeader.decode (received data) = .ok (header, body))
    (ht : header.msgType = pfcpSessionModificationReq) {e : Endian}
    (hw : a'.world = (handleSessionModification e env header body src (touched now a.world)).2) :
    Booked host a (.datagram env now data src) a' := by
  have hmod : a.modification (.datagram env now data src) =
      modifies env header body src (touched now a.world) := by
    simp only [Audit.modification, hd, if_pos ht]
    rfl
  cases hfound : modifies env header body src (touched now a.world) with
  | none =>
    obtain ⟨err, heq⟩ : ∃ err, handleSessionModification e env header body src
        (touched now a.world) = (.error err, touched now a.world) := modification_of_none hfound
    rw [heq] at hw
    exact booked_of_same hiss (hmod.trans hfound) hw rfl rfl rfl rfl
  | some found =>
    obtain ⟨seid, session, req⟩ := found
    rw [modification_of_some hfound] at hw
    obtain ⟨-, -, -, hlive, -⟩ := modifies_eq_some.mp hfound
    have hlookup : ∀ s, (modifySession e seid session.ueIp req
        (touched now a.world)).srv.sessions.lookup s = _ := lookup_modifySession hlive req
    have htasks : (modifySession e seid session.ueIp req (touched now a.world)).tasks =
        a.world.tasks :=
      modifySession_inv (P := fun w' => w'.tasks = a.world.tasks)
        (fun far w h => by
          unfold updateFar
          split
          · exact h
          · simp only
            split_ifs <;> exact h)
        (fun _ _ h => h) rfl
    obtain ⟨hsrv, -⟩ : (modifySession e seid session.ueIp req (touched now a.world)).srv = _ ∧ _ :=
      modifySession_rest req
    refine .modified hiss seid session req (hmod.trans hfound) hlive (fun s => ?_) ?_ ?_ ?_
    · rw [Audit.srv, hw]
      exact hlookup s
    · rw [hw]
      exact htasks
    · rw [Audit.srv, hw, hsrv]
      rfl
    · rw [Audit.srv, hw, hsrv]
      rfl

theorem deletion_booked {a' : Audit} (hiss : ¬ a.Issues (.datagram env now data src))
    (hmod : a.modification (.datagram env now data src) = none)
    (hd : PfcpHeader.decode (received data) = .ok (header, body))
    (ht : header.msgType = pfcpSessionDeletionReq) {e : Endian}
    (hw : a'.world = (handleMessage e env (received data) src (touched now a.world)).2)
    (hw' : a'.world = (handleSessionDeletion e env header src (touched now a.world)).2) :
    Booked host a (.datagram env now data src) a' := by
  cases hdel : deletes env (received data) src (touched now a.world) with
  | none =>
    obtain ⟨err, heq⟩ : ∃ err, handleSessionDeletion e env header src
        (touched now a.world) = (.error err, touched now a.world) := deletion_of_none hd ht hdel
    rw [heq] at hw'
    exact booked_of_same hiss hmod hw' rfl rfl rfl rfl
  | some found =>
    obtain ⟨seid, session, assoc⟩ := found
    rw [(handleMessage_of_deletes hdel).2] at hw
    refine .deleted hiss hmod seid ?_ ?_ ?_ ?_
    · rw [Audit.srv, hw]; rfl
    · rw [hw]; rfl
    · rw [Audit.srv, hw]; rfl
    · rw [Audit.srv, hw]; rfl

theorem datagram_booked (host : Host) :
    Booked host a (.datagram env now data src) (a.step host (.datagram env now data src)) := by
  by_cases hiss : a.Issues (.datagram env now data src)
  · exact issues_booked host hiss
  obtain ⟨hmod, -, associations, peerAddr, hw⟩ | ⟨header, body, hd, ⟨ht, hw⟩ | ⟨ht, hw⟩⟩ :=
    unissued_cases host hiss
  · exact booked_of_same hiss hmod hw rfl rfl rfl rfl
  · exact modification_booked hiss hd ht hw
  · have hstep : (a.step host (.datagram env now data src)).world =
        (handleMessage host.endian env (received data) src (touched now a.world)).2 := rfl
    exact deletion_booked hiss (modification_eq_none hd (by rw [ht]; decide)) hd ht hstep hw

end Datagram

/-- An event that is no datagram leaves the session table, the counters and the tasks alone. -/
theorem step_idle (host : Host) (a : Audit) {ev : Event}
    (h : ∀ env now data src, ev ≠ .datagram env now data src) :
    (a.step host ev).srv.sessions = a.srv.sessions ∧
      (a.step host ev).world.tasks = a.world.tasks ∧
      (a.step host ev).srv.nextSeid = a.srv.nextSeid ∧
      (a.step host ev).srv.nextTeid = a.srv.nextTeid := by
  cases ev with
  | datagram env now data src => exact absurd rfl (h env now data src)
  | snapshot order =>
    simp only [Audit.step, System.step, System.handle]
    split <;> exact ⟨rfl, rfl, rfl, rfl⟩
  | report clock =>
    cases htotals : a.sys.totals with
    | none =>
      refine ⟨?_, ?_, ?_, ?_⟩ <;> simp only [Audit.step, System.step, System.handle, htotals]
    | some totals =>
      have hsrv : (a.step host (.report clock)).srv = (report clock totals a.srv).1 := by
        simp only [Audit.step, Audit.srv, Audit.world, System.step, System.handle, htotals]
      rw [report_srv] at hsrv
      refine ⟨by rw [hsrv], ?_, by rw [hsrv], by rw [hsrv]⟩
      simp only [Audit.step, System.step, System.handle, htotals]
  | uplink | downlink => exact ⟨rfl, rfl, rfl, rfl⟩

/-- **What an event does to the session table.** -/
theorem step_booked (host : Host) (a : Audit) (ev : Event) : Booked host a ev (a.step host ev) := by
  have hother := @step_idle host a ev
  cases ev with
  | datagram env now data src => exact datagram_booked host
  | snapshot | report | uplink | downlink =>
    obtain ⟨hs, ht, hseid, hteid⟩ := hother (by rintro _ _ _ _ ⟨⟩)
    exact .idle id rfl hs ht hseid hteid

end UpfEdge
