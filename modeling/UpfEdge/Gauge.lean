import UpfEdge.Understood

/-!
# The gauge and the session table

The metrics gauge goes up by one when an establishment has entered its session into the table and
down by one when a deletion has taken one out.  A gauge that is only ever moved is right only as
long as each move goes with a change of the table: the SEID that is entered has to be new, and the
one that is taken out has to be there.  Both come from the counter of the SEIDs (`Issued`), which
also goes up on the error paths that enter nothing; it does not come round before 2 ^ 64 - 1
datagrams, and until then the gauge is the number of sessions (`gauge_eq_sessions`).
-/

namespace UpfEdge

open Lib Pfcp Server

namespace Audit

variable {host : Host} {a : Audit} {ev : Event}

/-! ### The gauge -/

/-- The gauge shows the number of sessions. -/
def Counted (a : Audit) : Prop := a.world.gauge = a.srv.sessions.keys.length

/-- The inserts of an establishment come before its session enters the table. -/
theorem install_gauge {ss : List InstallStep} {w w' : World} {ok : Bool}
    (h : install ss w = (ok, w')) : w'.gauge = w.gauge ∧ w'.srv.sessions = w.srv.sessions := by
  obtain ⟨-, hgauge, -⟩ := install_srv ss w
  rw [h] at hgauge
  rw [(srv_of_install h).1]
  exact ⟨hgauge, rfl⟩

theorem modifySession_gauge {e : Endian} {seid : UInt64} {ueIp : Ipv4Addr} {w : World}
    (req : SessionModificationReq) : (modifySession e seid ueIp req w).gauge = w.gauge := by
  refine modifySession_inv (P := fun w' => w'.gauge = w.gauge) (fun far w' h => ?_)
    (fun _ _ h => h) rfl
  unfold updateFar
  cases far.outerHeaderCreation with
  | none => exact h
  | some ohc =>
    simp only
    split_ifs <;> exact h

/-- A modification enters no session and takes none out. -/
theorem length_keys_modifySession {e : Endian} {seid : UInt64} {session : SessionData}
    {ueIp : Ipv4Addr} {w : World} (hlive : w.srv.sessions.lookup seid = some session)
    (req : SessionModificationReq) :
    (modifySession e seid ueIp req w).srv.sessions.keys.length = w.srv.sessions.keys.length := by
  refine Table.length_keys_congr fun s => ?_
  rw [lookup_modifySession hlive]
  split_ifs with hs
  · rw [hs, hlive]
    rfl
  · rfl

/-- **Every event keeps the gauge right**, as long as a SEID that is issued is not in the table. -/
theorem Counted.step (h : Counted a)
    (hnew : a.Issues ev → a.srv.sessions.lookup a.srv.nextSeid = none) :
    Counted (a.step host ev) := by
  cases ev with
  | snapshot order =>
    simp only [Audit.step, System.step, System.handle]
    split <;> exact h
  | report clock =>
    simp only [Audit.step, System.step, System.handle]
    split
    · exact h
    · next totals _ =>
      simp only [Counted, Audit.srv]
      rw [report_srv]
      exact h
  | uplink | downlink => exact h
  | datagram env now data src =>
    have htr := receive_transition host env now data src a.world
    have hw : (a.step host (.datagram env now data src)).world =
      (receive host env now data src a.world).2 := rfl
    rw [Counted, Audit.srv, hw]
    generalize receive host env now data src a.world = out at htr
    obtain ⟨r, w'⟩ := out
    simp only at htr ⊢
    cases htr with
    | idle | heartbeat | setup | refused => exact h
    | interrupted req assoc ueIp gnbInfo _ hest hset hue hgnb hinst =>
      obtain ⟨hgauge, hsessions⟩ := install_gauge hinst
      rw [hgauge, hsessions]
      exact h
    | established req assoc ueIp gnbInfo w' hest hset hue hgnb hinst =>
      obtain ⟨hgauge, hsessions⟩ := install_gauge hinst
      have hfree : w'.srv.sessions.lookup a.srv.nextSeid = none := by
        rw [hsessions]
        exact hnew (.of_establishes hest)
      have hsame : w'.gauge = w'.srv.sessions.keys.length := by
        rw [hgauge, hsessions]
        exact h
      change w'.gauge + 1 = ((w'.srv.sessions.insert a.srv.nextSeid _).keys.length : ℤ)
      rw [Table.length_keys_insert_new hfree, hsame, Nat.cast_add_one]
    | modified seid session assoc req hest hset htarget hlive hfind hown =>
      rw [modifySession_gauge, length_keys_modifySession hlive]
      exact h
    | deleted seid session assoc hest hset htarget hdel =>
      obtain ⟨-, hlive, -⟩ := of_deletes hdel
      have hlen := Table.length_keys_erase (Option.isSome_of_eq_some hlive)
      have hsame : a.world.gauge = ((touched now a.world).srv.sessions.keys.length : ℤ) := h
      change a.world.gauge - 1 = (((touched now a.world).srv.sessions.erase seid).keys.length : ℤ)
      rw [hsame, ← hlen]
      omega

/-! ### The counter -/

def isDatagram : Event → Bool
  | .datagram .. => true
  | _ => false

/-- The number of datagrams of a run. -/
def datagrams (evs : List Event) : ℕ := evs.countP isDatagram

/-- The SEIDs that a run issues, in order. -/
def seidsIssued (host : Host) : Audit → List Event → List UInt64
  | _, [] => []
  | a, ev :: evs =>
    (if a.Issues ev then [a.srv.nextSeid] else []) ++ seidsIssued host (a.step host ev) evs

/-- Only datagrams are issued SEIDs. -/
theorem datagrams_cons_of_issues (h : a.Issues ev) (evs : List Event) :
    datagrams (ev :: evs) = datagrams evs + 1 := by
  cases ev with
  | datagram env now data src => exact List.countP_cons_of_pos rfl
  | snapshot | report | uplink | downlink => cases h

theorem datagrams_le_cons (ev : Event) (evs : List Event) : datagrams evs ≤ datagrams (ev :: evs) :=
  (List.sublist_cons_self ev evs).countP_le

/-- A step with room left in the counter for the datagrams to come. -/
theorem nextSeid_step (host : Host) {ev : Event} {evs : List Event}
    (h : a.srv.nextSeid.toNat + datagrams (ev :: evs) < 2 ^ 64) :
    a.srv.nextSeid.toNat ≤ (a.step host ev).srv.nextSeid.toNat ∧
      (a.Issues ev → a.srv.nextSeid.toNat < (a.step host ev).srv.nextSeid.toNat) ∧
      (a.step host ev).srv.nextSeid.toNat + datagrams evs < 2 ^ 64 := by
  have hnext := (step_counters host a ev).1
  by_cases hiss : a.Issues ev
  · rw [if_pos hiss] at hnext
    have hcount := datagrams_cons_of_issues hiss evs
    have hsucc := next_succ (a := a) (n := 2 ^ 64 - 1) (by omega) (by decide)
    rw [hnext, hsucc]
    exact ⟨by omega, fun _ => by omega, by omega⟩
  · rw [if_neg hiss, UInt64.add_zero] at hnext
    have hcount := datagrams_le_cons ev evs
    rw [hnext]
    exact ⟨le_refl _, fun h => absurd h hiss, by omega⟩

/-- The SEIDs of a run whose datagrams the counter has room for: they go up from where it stands. -/
theorem seidsIssued_increasing (host : Host) (evs : List Event) (a : Audit)
    (h : a.srv.nextSeid.toNat + datagrams evs < 2 ^ 64) :
    (∀ s ∈ seidsIssued host a evs, a.srv.nextSeid.toNat ≤ s.toNat) ∧
      (seidsIssued host a evs).Nodup := by
  induction evs generalizing a with
  | nil => exact ⟨List.forall_mem_nil _, List.nodup_nil⟩
  | cons ev evs ih =>
    obtain ⟨hle, hlt, hroom⟩ := nextSeid_step host h
    obtain ⟨hmin, hnodup⟩ := ih (a.step host ev) hroom
    rw [seidsIssued]
    split_ifs with hiss
    · rw [List.singleton_append, List.nodup_cons]
      refine ⟨fun s hs => ?_, fun hmem => ?_, hnodup⟩
      · rcases List.mem_cons.mp hs with rfl | hs
        · exact le_refl _
        · exact hle.trans (hmin s hs)
      · have hagain := hmin _ hmem
        have hpast := hlt hiss
        omega
    · rw [List.nil_append]
      exact ⟨fun s hs => hle.trans (hmin s hs), hnodup⟩

/-- Such a run never issues the last SEID. -/
theorem meets_issuesBelow (host : Host) (evs : List Event) (a : Audit)
    (h : a.srv.nextSeid.toNat + datagrams evs < 2 ^ 64) :
    Meets (step host) (IssuesBelow (2 ^ 64 - 1)) a evs := by
  induction evs generalizing a with
  | nil => trivial
  | cons ev evs ih =>
    obtain ⟨-, -, hroom⟩ := nextSeid_step host h
    refine ⟨fun hiss => ?_, ih _ hroom⟩
    rw [datagrams_cons_of_issues hiss] at h
    omega

/-- **The gauge is the number of sessions.**  In every state that a new server reaches with fewer
than 2 ^ 64 - 1 datagrams, whatever they are and whatever else happens, the gauge is the number of
entries of the session table, every SEID in it is below the counter, and no SEID has been issued
twice. -/
theorem gauge_eq_sessions (host : Host) (b : Boot) (evs : List Event)
    (h : datagrams evs < 2 ^ 64 - 1) :
    (after host b evs).world.gauge = (after host b evs).srv.sessions.keys.length ∧
      (∀ s ∈ (after host b evs).srv.sessions.keys, s < (after host b evs).srv.nextSeid) ∧
      (seidsIssued host (init b) evs).Nodup := by
  have hroom : (init b).srv.nextSeid.toNat + datagrams evs < 2 ^ 64 := by
    have hone : (init b).srv.nextSeid.toNat = 1 := rfl
    omega
  have hinv : Issued (2 ^ 64 - 1) (after host b evs) ∧ Counted (after host b evs) := by
    refine run_inv (P := fun a => Issued (2 ^ 64 - 1) a ∧ Counted a)
      (fun a ev hi hb => ⟨hi.1.step (by decide) hb, hi.2.step fun _ => ?_⟩)
      ⟨init_issued (by decide) b, rfl⟩ (meets_issuesBelow host evs (init b) hroom)
    cases hfree : a.srv.sessions.lookup a.srv.nextSeid with
    | none => rfl
    | some data => exact absurd (hi.1.live hfree) (Nat.lt_irrefl _)
  refine ⟨hinv.2, fun s hs => ?_, (seidsIssued_increasing host evs (init b) hroom).2⟩
  obtain ⟨data, hdata⟩ :=
    Option.isSome_iff_exists.mp (Table.lookup_isSome.mpr (AList.mem_keys.mpr hs))
  exact hinv.1.live hdata

end Audit

open SmfSim Audit in
/-- Two sessions of simulators, an establishment without a UE address, and a deletion: one session
is left. -/
theorem gauge_eq_sessions_deleted :
    (after host boot [setup smfA 1, SmfSim.establish smfA 1 ue1, SmfSim.establish smfA 2 ue2,
      sends smfA (establishmentWith 3 smfA [] [] []),
      sends smfA (sessionDeletion 1)]).world.gauge = 1 := by
  obtain ⟨hgauge, -, -⟩ := gauge_eq_sessions host boot [setup smfA 1, SmfSim.establish smfA 1 ue1,
    SmfSim.establish smfA 2 ue2, sends smfA (establishmentWith 3 smfA [] [] []),
    sends smfA (sessionDeletion 1)] (by decide)
  rw [hgauge]
  decide +kernel

end UpfEdge
