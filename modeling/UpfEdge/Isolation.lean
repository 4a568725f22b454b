import UpfEdge.Ledger
import UpfEdge.SmfSim

/-!
# SEIDs separate the rules of different sessions

A session message is handled for one local SEID (`targetSeid`), and the rules of every other live
SEID come out of it exactly as they went in, in every state that a run with SEIDs below `2 ^ 48`
reaches.  The keys hold 48 bits of a SEID, so the bound is the one the key format needs.
-/

namespace UpfEdge

open Lib Pfcp Server

namespace Audit

section

variable {host : Host} {a : Audit} {env : Env} {now : Instant} {data : Bytes} {src : SocketAddr}

/-- What one session message leaves alone. -/
theorem step_sameRules (hi : Issued (2 ^ 48) a)
    (hb : a.IssuesBelow (2 ^ 48) (.datagram env now data src)) {seid b : UInt64}
    {session : SessionData} (htarget : targetSeid (received data) a.world = some seid)
    (hlive : a.Live b session) (hne : b ≠ seid) :
    SameRules b a.world (a.step host (.datagram env now data src)).world := by
  have hb48 : b.toNat < 2 ^ 48 := Nat.lt_of_lt_of_le (hi.live hlive) hi.next_le
  have hnext : b ≠ a.srv.nextSeid := by
    rintro rfl
    exact Nat.lt_irrefl _ (hi.live hlive)
  change SameRules b a.world (receive host env now data src a.world).2
  rcases receive_cases host env now data src a.world with
    ⟨hw, -⟩ | ⟨hnone, -⟩ | ⟨p, key, hest, hk⟩ | ⟨seid', session', assoc, htarget', hlive', -, -, hk⟩
  · rw [hw]
    exact { SameRules.refl with }
  · cases hnone.symm.trans htarget
  · exact hk.sameRules (hb (.of_establishes hest)) hb48 hnext
  · obtain rfl : seid' = seid := Option.some.inj (htarget'.symm.trans htarget)
    have hseid : seid'.toNat < 2 ^ 48 := Nat.lt_of_lt_of_le (hi.live hlive') hi.next_le
    exact hk.sameRules hseid hb48 hne

end

/-- **Isolation.**  Along every run that issues SEIDs below `2 ^ 48`, a message handled for one
SEID leaves the rules of every other live SEID as they were. -/
theorem sessionMessage_keeps_other_rules (host : Host) (b : Boot) (evs : List Event) (env : Env)
    (now : Instant) (data : Bytes) (src : SocketAddr)
    (hm : Meets (step host) (IssuesBelow (2 ^ 48)) (init b) (evs ++ [.datagram env now data src]))
    {seid other : UInt64} {session : SessionData}
    (htarget : targetSeid (received data) (after host b evs).world = some seid)
    (hlive : (after host b evs).Live other session) (hne : other ≠ seid) :
    SameRules other (after host b evs).world
      (after host b (evs ++ [.datagram env now data src])).world := by
  obtain ⟨hbefore, hlast, -⟩ := meets_append.mp hm
  have hi := (after_issued (n := 2 ^ 48) (by decide) (by decide) hbefore).1
  have hstep : after host b (evs ++ [.datagram env now data src]) =
      (after host b evs).step host (.datagram env now data src) := run_concat _ _ _
  rw [hstep]
  exact step_sameRules hi hlast htarget hlive hne

open SmfSim in
/-- A session of another simulator is deleted beside session 1. -/
theorem sessionMessage_keeps_other_rules_sim :
    SameRules 1 (after host boot [setup smfA 1, setup smfB 1, establish smfA 1 ue1,
        establish smfB 2 ue2]).world
      (after host boot ([setup smfA 1, setup smfB 1, establish smfA 1 ue1, establish smfB 2 ue2] ++
        [sends smfB (sessionDeletion 2)])).world := by
  refine @sessionMessage_keeps_other_rules host boot _ env 0 (sessionDeletion 2) (peer smfB) ?_
    2 1 ⟨ue1, 1000, gnb, 1⟩ ?_ ?_ ?_
  all_goals decide +kernel

end Audit

end UpfEdge
