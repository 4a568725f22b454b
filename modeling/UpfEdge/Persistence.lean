import UpfEdge.Server.SessionStore
import UpfEdge.Sessions
import UpfEdge.SmfSim

/-!
# What Redis ends with

Accepted establishments and deletions hand a save or a delete to a task of its own, and the tasks
run in an order nobody fixes.  `Converged` says that the store, after all of them, holds the live
sessions and no others.

For one SEID only the task that runs last counts (`stored_performAll`), so the order has to be right
in exactly that respect (`InOrder`).  And a modification spawns no task: a session that it has moved
to another tunnel stays in the store as it was.  `always_converged_iff` says that these two are all
that can go wrong.
-/

namespace UpfEdge

open Lib Pfcp Server SessionStore

/-! ### Tasks -/

/-- The last task for a SEID. -/
def lastTask (s : UInt64) (ts : List StoreTask) : Option StoreTask :=
  (ts.filter (·.seid = s)).getLast?

/-- For every session, the task that runs last is the one that was spawned last. -/
def InOrder (order spawned : List StoreTask) : Prop := ∀ s, lastTask s order = lastTask s spawned

theorem lastTask_concat (s : UInt64) (ts : List StoreTask) (t : StoreTask) :
    lastTask s (ts ++ [t]) = if t.seid = s then some t else lastTask s ts := by
  unfold lastTask
  rw [List.filter_append]
  split_ifs with hs
  · simp [hs]
  · simp [hs]

/-- What is stored for a SEID is what the last task for it has left. -/
theorem stored_performAll (r : Redis) (ts : List StoreTask) (s : UInt64) :
    stored (performAll r ts) s = match lastTask s ts with
      | some t => t.left
      | none => stored r s := by
  induction ts using List.reverseRecOn with
  | nil => rfl
  | append_singleton ts t ih =>
    have hlast : performAll r (ts ++ [t]) = perform (performAll r ts) t := List.foldl_concat ..
    rw [hlast, stored_perform, lastTask_concat]
    by_cases hs : t.seid = s
    · rw [if_pos hs.symm, if_pos hs]
    · rw [if_neg fun h => hs h.symm, if_neg hs, ih]

theorem seid_of_lastTask {s : UInt64} {ts : List StoreTask} {t : StoreTask}
    (h : lastTask s ts = some t) : t.seid = s := by
  have hmem := List.mem_of_getLast? h
  simpa using List.of_mem_filter hmem

theorem lastTask_eq_none_of_perm {s : UInt64} {ts ts' : List StoreTask} (h : ts.Perm ts') :
    lastTask s ts = none ↔ lastTask s ts' = none := by
  unfold lastTask
  rw [List.getLast?_eq_none_iff, List.getLast?_eq_none_iff, ← List.length_eq_zero_iff,
    ← List.length_eq_zero_iff, (h.filter _).length_eq]

/-- A task is given by its SEID and what it leaves. -/
theorem eq_of_left {t t' : StoreTask} (hs : t.seid = t'.seid) (h : t.left = t'.left) : t = t' := by
  cases t <;> cases t' <;> simp_all [StoreTask.seid, StoreTask.left]

/-- Two orders of the same tasks leave the same store exactly when they agree on the last task for
every SEID. -/
theorem stored_eq_iff_inOrder {r : Redis} {ts ts' : List StoreTask} (h : ts.Perm ts') :
    (∀ s, stored (performAll r ts) s = stored (performAll r ts') s) ↔ InOrder ts ts' := by
  refine forall_congr' fun s => ?_
  rw [stored_performAll, stored_performAll]
  cases ht : lastTask s ts with
  | none => simp [(lastTask_eq_none_of_perm h).mp ht]
  | some t =>
    cases ht' : lastTask s ts' with
    | none => rw [(lastTask_eq_none_of_perm h).mpr ht'] at ht; cases ht
    | some t' =>
      rw [Option.some.injEq]
      constructor
      · intro hleft
        exact eq_of_left ((seid_of_lastTask ht).trans (seid_of_lastTask ht').symm) hleft
      · rintro rfl
        rfl

namespace Audit

/-! ### Starting from a store -/

/-- The UPF when it starts to receive, with the sessions that the store has given it. -/
def started (b : Boot) (sessions : List (UInt64 × SessionData)) : Audit :=
  let a := init b
  { a with sys := { a.sys with world := { a.world with srv := a.srv.restore sessions } } }

/-- The UPF at the end of a restore. -/
def restored (b : Boot) (sessions : List (UInt64 × SessionData)) : Audit :=
  started { b with store := true } sessions

/-- The UPF started on a store. -/
def startedOn (b : Boot) (order : IterOrder String) (r : Redis) : Audit :=
  restored b (loadAll order r)

/-- The store holds the live sessions when the tasks have run in the order `order`. -/
def Converged (r : Redis) (a : Audit) (order : List StoreTask) : Prop :=
  ∀ keys : IterOrder String, (loadAll keys (performAll r order)).Perm
    (a.srv.sessions.entries.map fun x => (x.1, x.2))

/-- An accepted modification names, in the last of its Update FARs for the gNB's side that has an
Outer Header Creation, the tunnel that the session has. -/
def Unmoved (a : Audit) (ev : Event) : Prop :=
  ∀ m ∈ a.modification ev, ∀ ohc ∈ (m.2.2.updateFars.filterMap accessTunnel).getLast?,
    ohc.peerAddr = m.2.1.gnbIp ∧ ohc.teid = m.2.1.teid

/-- Performed in the order they were spawned, the tasks leave the live sessions. -/
def Booking (r : Redis) (a : Audit) : Prop :=
  ∀ s, a.srv.sessions.lookup s = stored (performAll r a.world.tasks) s

section Step

variable {host : Host} {r : Redis} {a a' : Audit} {ev : Event}

theorem Booking.converged_iff (hr : Ours r) (h : Booking r a) {order : List StoreTask}
    (hperm : order.Perm a.world.tasks) : a.Converged r order ↔ InOrder order a.world.tasks := by
  have hours : Ours (performAll r order) := hr.performAll order
  have hsame := stored_eq_iff_inOrder (r := r) hperm
  rw [← hsame]
  constructor
  · intro hconv s
    rw [(loadAll_perm_iff hours .asStored _).mp (hconv .asStored), h]
  · intro heq keys
    refine (loadAll_perm_iff hours keys _).mpr fun s => ?_
    rw [heq, h]

/-- The order of spawning decides it for all orders. -/
theorem booking_iff (hr : Ours r) : Booking r a ↔ ∀ order, order.Perm a.world.tasks →
    (a.Converged r order ↔ InOrder order a.world.tasks) := by
  constructor
  · exact fun h order hperm => h.converged_iff hr hperm
  · intro h s
    have hconv := (h a.world.tasks (.refl _)).mpr fun _ => rfl
    exact ((loadAll_perm_iff (hr.performAll _) .asStored _).mp (hconv .asStored) s).symm

/-- A task that is spawned for what it leaves in the session table. -/
theorem Booking.spawned (h : Booking r a) (t : StoreTask)
    (ht : a'.world.tasks = a.world.tasks ++ [t])
    (hs : ∀ s, a'.srv.sessions.lookup s = if s = t.seid then t.left else a.srv.sessions.lookup s) :
    Booking r a' := by
  intro s
  have hlast : performAll r (a.world.tasks ++ [t]) = perform (performAll r a.world.tasks) t :=
    List.foldl_concat ..
  rw [ht, hlast, stored_perform, hs, h]

theorem Booking.step (hstore : a.srv.sessionStore = true) (h : Booking r a) (hg : a.Unmoved ev) :
    Booking r (a.step host ev) := by
  have hbooked := step_booked host a ev
  generalize a.step host ev = a' at hbooked ⊢
  cases hbooked with
  | idle hiss hmod hs ht hseid hteid | refused hiss hmod hanswer hs ht hseid hteid =>
    intro s
    rw [hs, ht]
    exact h s
  | established hiss hmod hanswer data hdata hs ht hseid hteid =>
    rw [hstore, if_pos rfl] at ht
    refine h.spawned _ ht fun s => ?_
    rw [hs]
    exact Table.lookup_insert_ite _ _ _ _
  | deleted hiss hmod seid hs ht hseid hteid =>
    rw [hstore, if_pos rfl] at ht
    refine h.spawned _ ht fun s => ?_
    rw [hs]
    exact Table.lookup_erase_ite _ _ _
  | modified hiss seid session req hmod hlive hs ht hseid hteid =>
    have hsame : moved req.updateFars session = session := by
      have hlast := hg _ hmod
      rw [moved_eq]
      split
      · next ohc hohc => exact setSession_eq_self.mpr (hlast ohc hohc)
      · rfl
    intro s
    rw [hs, ht, hsame, ← h s]
    split_ifs with heq
    · rw [heq]
      exact hlive.symm
    · rfl

/-- A session that a modification moves is not what the store has. -/
theorem Booking.unmoved (h : Booking r a) (h' : Booking r (a.step host ev)) : a.Unmoved ev := by
  have hbooked := step_booked host a ev
  generalize a.step host ev = a' at hbooked h'
  cases hbooked with
  | idle hiss hmod | refused hiss hmod | established hiss hmod | deleted hiss hmod =>
    intro m hm
    rw [hmod] at hm
    cases hm
  | modified hiss seid session req hmod hlive hs ht hseid hteid =>
    intro m hm ohc hohc
    obtain rfl : (seid, session, req) = m := Option.some.inj (hmod.symm.trans hm)
    have hmoved : some (moved req.updateFars session) = some session := by
      have hseid' := h' seid
      rw [hs, if_pos rfl, ht, ← h seid] at hseid'
      exact hseid'.trans hlive
    rw [moved_eq, hohc] at hmoved
    exact setSession_eq_self.mp (Option.some.inj hmoved)

end Step

theorem startedOn_booking {r : Redis} (hr : Ours r) (b : Boot) (order : IterOrder String) :
    Booking r (startedOn b order r) :=
  fun s => restore_loadAll hr order rfl s

/-- **Persistence.**  Take a UPF that was started on a store which only such tasks have written to.
In every state of a run, and for every order in which the tasks spawned so far may run, the store
ends with the live sessions exactly when the last task for each session runs last; and this is so
exactly when no accepted modification of the run moves its session to another tunnel. -/
theorem always_converged_iff (host : Host) (b : Boot) (past : List StoreTask)
    (keys : IterOrder String) (evs : List Event) :
    Always (step host)
      (fun a => ∀ order, order.Perm a.world.tasks →
        (a.Converged (performAll ∅ past) order ↔ InOrder order a.world.tasks))
      (startedOn b keys (performAll ∅ past)) evs ↔
      Meets (step host) Unmoved (startedOn b keys (performAll ∅ past)) evs := by
  have hr : Ours (performAll ∅ past) := ours_empty.performAll past
  have hiff : Always (step host) (Booking (performAll ∅ past))
      (startedOn b keys (performAll ∅ past)) evs ↔
        Meets (step host) Unmoved (startedOn b keys (performAll ∅ past)) evs :=
    always_iff_meets_of (I := fun a => a.srv.sessionStore = true)
      (fun a ev hstore _ => (step_settings host a ev).2.2.trans hstore)
      (fun a ev hstore h _ hg => h.step hstore hg) (fun a ev _ h _ h' => h.unmoved h') rfl
      (startedOn_booking hr b keys) (meets_true _ _)
  rw [← hiff]
  refine forall_congr' fun pre => forall_congr' fun post => forall_congr' fun _ => ?_
  exact (booking_iff hr).symm

section Sim

open SmfSim

/-- A simulator deletes its session, and the delete runs before the save: the session is back.
It moves its session to another tunnel: the store keeps the old one. -/
theorem not_converged_sim :
    (let a := run (step host) (startedOn boot .asStored ∅)
      [setup smfA 1, establish smfA 1 ue1, sends smfA (sessionDeletion 1)]
    ∃ order, order.Perm a.world.tasks ∧ ¬ a.Converged ∅ order) ∧
    let a := run (step host) (startedOn boot .asStored ∅)
      [setup smfA 1, establish smfA 1 ue1, sends smfA (tunnelModification 1 gnb)]
    ¬ a.Converged ∅ a.world.tasks := by
  constructor
  · intro a
    refine ⟨a.world.tasks.reverse, List.reverse_perm _, fun h => ?_⟩
    have hstored := (loadAll_perm_iff (ours_empty.performAll _) .asStored _).mp (h .asStored) 1
    rw [stored_performAll] at hstored
    have hlast : (lastTask 1 a.world.tasks.reverse).map (·.left.isSome) = some true := by
      decide +kernel
    have hgone : a.srv.sessions.lookup 1 = none := by decide +kernel
    obtain ⟨t, ht, hleft⟩ := Option.map_eq_some_iff.mp hlast
    rw [ht, hgone] at hstored
    simp only at hstored
    rw [hstored] at hleft
    cases hleft
  · intro a h
    have hstored := (loadAll_perm_iff (ours_empty.performAll _) .asStored _).mp (h .asStored) 1
    rw [stored_performAll] at hstored
    have hlast : (lastTask 1 a.world.tasks).map (·.left.map (·.teid)) = some (some 1000) := by
      decide +kernel
    have hteid : (a.srv.sessions.lookup 1).map (·.teid) = some 0xdeadbeef := by decide +kernel
    obtain ⟨t, ht, hleft⟩ := Option.map_eq_some_iff.mp hlast
    rw [ht] at hstored
    simp only at hstored
    rw [← hstored, hleft] at hteid
    cases hteid

end Sim

end Audit

end UpfEdge
