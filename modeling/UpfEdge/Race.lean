import UpfEdge.Ledger
import UpfEdge.SmfSim

/-!
# A deletion and an establishment at the same time

Every datagram is handled in a task of its own, and a deletion leaves the server lock before it
works on the eBPF maps.  A `Race` is a deletion that has just left the server lock, and an
establishment that waits for it; a schedule says whose turn it is, and a turn is one critical
section.  An establishment keeps the server lock to its end, but the sections of the deletion do
not need it.

With nothing in between, the turns of a task are its handler (`deletion_turns`,
`establishment_turns`).  Run against each other for one UE address, the new session is whole in the
end exactly when its SESSION_MAP insert comes after the deletion's last section
(`race_up_iff`): the deletion removes whatever row it finds at the address.
-/

namespace UpfEdge

open Lib Pfcp Server

inductive Task where
  | deletion
  | establishment
  deriving DecidableEq

/-- The critical sections of a deletion behind the server lock. -/
inductive DeletionSection where
  | readSession
  | readPdrs
  | removePdrs
  | removeFars
  | removeUrrs
  | removeSession
  deriving DecidableEq

namespace DeletionSection

/-- The sections, in order. -/
def all : List DeletionSection :=
  [.readSession, .readPdrs, .removePdrs, .removeFars, .removeUrrs, .removeSession]

def perform (env : Env) (d : Deletion) (m : Maps) : DeletionSection → Deletion × Maps
  | .readSession => (d.readSession m, m)
  | .readPdrs => (d.readPdrs env m, m)
  | .removePdrs => (d, d.removePdrs m)
  | .removeFars => (d, d.removeFars m)
  | .removeUrrs => (d, d.removeUrrs m)
  | .removeSession => (d, d.removeSession m)

end DeletionSection

/-- The two requests, and what each handler learns from outside. -/
structure Contest where
  host : Host
  delEnv : Env
  estEnv : Env
  src : SocketAddr
  req : SessionEstablishmentReq

/-- How far the establishment is: before the server lock, behind it with inserts left to make, or
done. -/
inductive Progress where
  | waiting
  | inserting (nodeId : Ipv4Addr) (seid : UInt64) (data : SessionData) (left : List InstallStep)
  | done (accepted : Bool)

namespace Progress

/-- What the establishment does on the server before its first insert. -/
def lock (c : Contest) (srv : PfcpServer) : Progress × PfcpServer :=
  match c.src with
  | .v6 .. => (.done false, srv)
  | .v4 ip port =>
    match findAssociation c.estEnv srv (.v4 ip port) with
    | none => (.done false, srv)
    | some assoc =>
      let srv' := srv.allocSeid.2.allocTeid.2
      match c.req.createPdrs.findSome? (·.ueIp) with
      | none => (.done false, srv')
      | some ueIp =>
        match c.req.createFars.findSome? (·.outerHeaderCreation) with
        | none => (.done false, srv')
        | some gnbInfo =>
          (.inserting assoc.2.nodeId srv.nextSeid
            { ueIp, teid := srv.nextTeid, gnbIp := gnbInfo.peerAddr, cpSeid := c.req.cpSeid }
            (installSteps c.host.endian c.estEnv srv.n3Addr srv.nextSeid srv.nextTeid ueIp gnbInfo
              c.req),
            srv')

/-- The next section of the establishment: the server lock, an insert, or the entries in the
server's tables. -/
def advance (c : Contest) (w : World) : Progress → Progress × World
  | .waiting => ((lock c w.srv).1, { w with srv := (lock c w.srv).2 })
  | .inserting nodeId seid data [] => (.done true, registerSession nodeId seid data w)
  | .inserting nodeId seid data (s :: ss) =>
    match s.apply w with
    | some w' => (.inserting nodeId seid data ss, w')
    | none => (.done false, w)
  | .done accepted => (.done accepted, w)

end Progress

structure Race where
  world : World
  deletion : Deletion
  left : List DeletionSection
  progress : Progress

namespace Race

/-- The deletion of `seid` has just left the server lock. -/
def start (e : Endian) (seid : UInt64) (data : SessionData) (w : World) : Race where
  world := w
  deletion := .start e seid data
  left := DeletionSection.all
  progress := .waiting

/-- One turn; a task that is done does nothing. -/
def turn (c : Contest) (r : Race) : Task → Race
  | .deletion =>
    match r.left with
    | [] => r
    | s :: ss =>
      let out := s.perform c.delEnv r.deletion r.world.maps
      { r with world := { r.world with maps := out.2 }, deletion := out.1, left := ss }
  | .establishment =>
    let out := r.progress.advance c r.world
    { r with progress := out.1, world := out.2 }

/-- Both handlers have finished, and the establishment was accepted. -/
structure Finished (r : Race) : Prop where
  deletion : r.left = []
  establishment : r.progress = .done true

instance : ∀ p : Progress, Decidable (p = .done true)
  | .done true => isTrue rfl
  | .done false | .waiting | .inserting .. => isFalse nofun

instance (r : Race) : Decidable r.Finished :=
  decidable_of_iff (r.left = [] ∧ r.progress = .done true)
    ⟨fun h => ⟨h.1, h.2⟩, fun h => ⟨h.1, h.2⟩⟩

end Race

/-- The session `seid` that `req` asks for is whole: its row at the UE address, and all its
rules. -/
structure Up (e : Endian) (seid : UInt64) (ueIp : Ipv4Addr) (req : SessionEstablishmentReq)
    (m : Maps) : Prop where
  row : ∃ info, m.sessionMap.lookup (.ofIp e ueIp) = some info ∧ info.seid = seid
  pdr : ∀ p ∈ req.createPdrs, (m.pdrMap.lookup (.new seid p.pdrId.toUInt32)).isSome
  far : ∀ f ∈ req.createFars, (m.farMap.lookup (.new seid f.farId)).isSome
  urr : ∀ u ∈ req.createUrrs, (m.urrMap.lookup (.new seid u.urrId)).isSome

/-- The second turn of the establishment, its SESSION_MAP insert, comes when the deletion has had
all its turns. -/
def InsertsLast (sched : List Task) : Prop :=
  ∃ pre post, sched = pre ++ .establishment :: post ∧ pre.count .establishment = 1 ∧
    DeletionSection.all.length ≤ pre.count .deletion

/-! ### The turns of one task alone -/

section Alone

variable {c : Contest} {r : Race}

/-- **The turns of a deletion** with nothing in between are what its handler does to the maps. -/
theorem deletion_turns (c : Contest) (seid : UInt64) (data : SessionData) (w : World) :
    run (Race.turn c) (.start c.host.endian seid data w) (List.replicate 6 .deletion) =
      { Race.start c.host.endian seid data w with
        world := { w with maps := removeRules c.host.endian c.delEnv seid data w.maps }
        deletion := (Deletion.start c.host.endian seid data).collect c.delEnv w.maps
        left := [] } := rfl

/-- The turns of an establishment that has inserts left. -/
theorem install_turns (nodeId : Ipv4Addr) (seid : UInt64) (data : SessionData) :
    ∀ (ss : List InstallStep) (r : Race), r.progress = .inserting nodeId seid data ss →
      (run (Race.turn c) r (List.replicate (ss.length + 1) .establishment)).world =
        (if (install ss r.world).1 then registerSession nodeId seid data (install ss r.world).2
        else (install ss r.world).2) ∧
      (run (Race.turn c) r (List.replicate (ss.length + 1) .establishment)).progress =
        .done (install ss r.world).1
  | [], r, h => by
    simp only [List.length_nil, Nat.zero_add, List.replicate_one, run_cons, run_nil, Race.turn, h,
      Progress.advance, install, if_true, and_self]
  | s :: ss, r, h => by
    rw [List.length_cons, List.replicate_succ, run_cons]
    cases hs : s.apply r.world with
    | none =>
      have hturn : r.turn c .establishment = { r with progress := .done false } := by
        simp only [Race.turn, h, Progress.advance, hs]
      have hdone : ∀ n (r : Race), r.progress = .done false →
          run (Race.turn c) r (List.replicate n .establishment) = r := by
        intro n
        induction n with
        | zero => exact fun _ _ => rfl
        | succ n ih =>
          intro r hr
          have hr' : r.turn c .establishment = r := by
            simp only [Race.turn, hr, Progress.advance]
            rw [← hr]
          rw [List.replicate_succ, run_cons, hr', ih r hr]
      rw [hturn, hdone _ _ rfl]
      simp only [install, hs, Bool.false_eq_true, if_false, and_self]
    | some w' =>
      have hturn : r.turn c .establishment =
          { r with world := w', progress := .inserting nodeId seid data ss } := by
        simp only [Race.turn, h, Progress.advance, hs]
      rw [hturn]
      have ih := install_turns nodeId seid data ss
        { r with world := w', progress := .inserting nodeId seid data ss } rfl
      simp only [install, hs]
      exact ih

/-- **The turns of an establishment** with nothing in between are its handler. -/
theorem establishment_turns {header : PfcpHeader} {body : Bytes}
    (hreq : SessionEstablishmentReq.decode body = .ok c.req) (hr : r.progress = .waiting) :
    let out := handleSessionEstablishment c.host.endian c.estEnv header body c.src r.world
    ∃ n, (run (Race.turn c) r (List.replicate n .establishment)).world = out.2 ∧
      (run (Race.turn c) r (List.replicate n .establishment)).progress = .done out.1.isOk := by
  have hturn : r.turn c .establishment = { r with
      progress := (Progress.lock c r.world.srv).1
      world := { r.world with srv := (Progress.lock c r.world.srv).2 } } := by
    simp only [Race.turn, hr, Progress.advance]
  have hone : run (Race.turn c) r (List.replicate 1 .establishment) = r.turn c .establishment := rfl
  simp only [handleSessionEstablishment, hreq]
  unfold Progress.lock at hturn
  cases hsrc : c.src with
  | v6 ip port fl sc =>
    simp only [hsrc] at hturn
    exact ⟨1, by rw [hone, hturn]; exact ⟨rfl, rfl⟩⟩
  | v4 ip port =>
    simp only [hsrc] at hturn ⊢
    cases hfind : findAssociation c.estEnv r.world.srv (.v4 ip port) with
    | none =>
      simp only [hfind] at hturn
      exact ⟨1, by rw [hone, hturn]; exact ⟨rfl, rfl⟩⟩
    | some assoc =>
      simp only [hfind] at hturn ⊢
      cases hue : c.req.createPdrs.findSome? (·.ueIp) with
      | none =>
        simp only [hue] at hturn
        exact ⟨1, by rw [hone, hturn]; exact ⟨rfl, rfl⟩⟩
      | some ueIp =>
        simp only [hue] at hturn ⊢
        cases hgnb : c.req.createFars.findSome? (·.outerHeaderCreation) with
        | none =>
          simp only [hgnb] at hturn
          exact ⟨1, by rw [hone, hturn]; exact ⟨rfl, rfl⟩⟩
        | some gnbInfo =>
          simp only [hgnb] at hturn ⊢
          have hworld : (r.turn c .establishment).world = allocated r.world := by
            rw [hturn]
            rfl
          have hinst := install_turns (c := c) _ _ _ _ (r.turn c .establishment) (by rw [hturn])
          rw [hworld] at hinst
          generalize installSteps c.host.endian c.estEnv r.world.srv.n3Addr r.world.srv.nextSeid
            r.world.srv.nextTeid ueIp gnbInfo c.req = ss at hinst ⊢
          refine ⟨ss.length + 1 + 1, ?_⟩
          rw [List.replicate_succ, run_cons, hinst.1, hinst.2]
          obtain ⟨ok, w'⟩ := install ss (allocated r.world)
          cases ok <;> exact ⟨rfl, rfl⟩

end Alone

/-! ### The turns of both -/

section Turns

variable {c : Contest} {r : Race} {sched : List Task}

theorem turn_left (t : Task) :
    (r.turn c t).left = r.left.drop (if t = .deletion then 1 else 0) := by
  cases t with
  | deletion =>
    simp only [Race.turn]
    split
    · next h => rw [h]; rfl
    · next h => rw [h]; rfl
  | establishment => rfl

theorem run_left : ∀ (sched : List Task) (r : Race),
    (run (Race.turn c) r sched).left = r.left.drop (sched.count .deletion)
  | [], _ => rfl
  | t :: sched, r => by
    rw [run_cons, run_left sched, turn_left, List.drop_drop]
    cases t with
    | deletion => rw [if_pos rfl, List.count_cons_self, Nat.add_comm]
    | establishment => rw [if_neg (by decide), List.count_cons_of_ne (by decide), Nat.zero_add]

/-- A turn of the deletion is none of the establishment, and changes nothing of the server. -/
theorem turn_deletion (r : Race) : (r.turn c .deletion).progress = r.progress ∧
    (r.turn c .deletion).world.srv = r.world.srv := by
  simp only [Race.turn]
  split <;> exact ⟨rfl, rfl⟩

/-- The deletion keeps its SEID and its key. -/
theorem run_deletion : ∀ (sched : List Task) (r : Race),
    (run (Race.turn c) r sched).deletion.seid = r.deletion.seid ∧
      (run (Race.turn c) r sched).deletion.key = r.deletion.key
  | [], _ => ⟨rfl, rfl⟩
  | t :: sched, r => by
    have hturn : (r.turn c t).deletion.seid = r.deletion.seid ∧
        (r.turn c t).deletion.key = r.deletion.key := by
      cases t with
      | establishment => exact ⟨rfl, rfl⟩
      | deletion =>
        simp only [Race.turn]
        split
        · exact ⟨rfl, rfl⟩
        · next s ss _ => cases s <;> exact ⟨rfl, rfl⟩
    obtain ⟨hseid, hkey⟩ := run_deletion sched (r.turn c t)
    exact ⟨hseid.trans hturn.1, hkey.trans hturn.2⟩

theorem run_no_establishment : ∀ (sched : List Task) (r : Race), sched.count .establishment = 0 →
    (run (Race.turn c) r sched).progress = r.progress
  | [], _, _ => rfl
  | .deletion :: sched, r, h => by
    rw [List.count_cons_of_ne (by decide)] at h
    rw [run_cons, run_no_establishment sched _ h, (turn_deletion r).1]
  | .establishment :: sched, r, h => by
    rw [List.count_cons_self] at h
    cases h

/-- The first turn of the establishment is the server lock, and finds the server as the deletion
left it. -/
theorem run_one_establishment : ∀ (sched : List Task) (r : Race), r.progress = .waiting →
    sched.count .establishment = 1 →
    (run (Race.turn c) r sched).progress = (Progress.lock c r.world.srv).1
  | [], _, _, h => by cases h
  | .deletion :: sched, r, hw, h => by
    rw [List.count_cons_of_ne (by decide)] at h
    rw [run_cons, run_one_establishment sched _ ((turn_deletion r).1.trans hw) h,
      (turn_deletion r).2]
  | .establishment :: sched, r, hw, h => by
    rw [List.count_cons_self] at h
    rw [run_cons, run_no_establishment sched _ (Nat.succ.inj h)]
    simp only [Race.turn, hw, Progress.advance]

theorem run_done {accepted : Bool} (h : r.progress = .done accepted) :
    (run (Race.turn c) r sched).progress = .done accepted := by
  refine run_inv_of_step (P := fun r : Race => r.progress = .done accepted) (fun r t hr => ?_) h
  cases t with
  | deletion => exact (turn_deletion r).1.trans hr
  | establishment => simp only [Race.turn, hr, Progress.advance]

theorem lock_cases (c : Contest) (srv : PfcpServer) : (Progress.lock c srv).1 = .done false ∨
    ∃ nodeId ueIp gnbInfo data, c.req.createPdrs.findSome? (·.ueIp) = some ueIp ∧
      (Progress.lock c srv).1 = .inserting nodeId srv.nextSeid data
        (installSteps c.host.endian c.estEnv srv.n3Addr srv.nextSeid srv.nextTeid ueIp gnbInfo
          c.req) := by
  unfold Progress.lock
  cases c.src with
  | v6 => exact .inl rfl
  | v4 ip port =>
    simp only
    cases findAssociation c.estEnv srv (.v4 ip port) with
    | none => exact .inl rfl
    | some assoc =>
      cases c.req.createPdrs.findSome? (·.ueIp) with
      | none => exact .inl rfl
      | some ueIp =>
        cases c.req.createFars.findSome? (·.outerHeaderCreation) with
        | none => exact .inl rfl
        | some gnbInfo => exact .inr ⟨_, ueIp, gnbInfo, _, rfl, rfl⟩

/-! ### The rules of the new session -/

/-- The row of a rule insert is there. -/
def RulePresent (m : Maps) : InstallStep → Prop
  | .session .. => True
  | .pdr k _ => (m.pdrMap.lookup k).isSome
  | .far k _ => (m.farMap.lookup k).isSome
  | .urr k _ => (m.urrMap.lookup k).isSome

theorem isSome_of_insert {cap : ℕ} {K V : Type} [DecidableEq K] {t t' : BoundedTable cap K V}
    {k j : K} {v : V} (h : t.insert k v = some t') (hj : (t.lookup j).isSome ∨ j = k) :
    (t'.lookup j).isSome := by
  rw [BoundedTable.lookup_of_insert h]
  split_ifs with hk
  · rfl
  · exact hj.resolve_right hk

/-- An insert puts its row in and takes none out. -/
theorem apply_rulePresent {s s' : InstallStep} {w w' : World} (h : s.apply w = some w')
    (hs : RulePresent w.maps s' ∨ s' = s) : RulePresent w'.maps s' := by
  have hc := s.apply_some h
  cases s' with
  | session => trivial
  | pdr k v =>
    cases s with
    | pdr k' v' =>
      obtain ⟨m, hm, rfl⟩ := hc
      exact isSome_of_insert hm (hs.imp_right fun heq => (InstallStep.pdr.inj heq).1)
    | session | far | urr =>
      obtain ⟨m, -, rfl⟩ := hc
      exact hs.resolve_right (by simp)
  | far k v =>
    cases s with
    | far k' v' =>
      obtain ⟨m, hm, rfl⟩ := hc
      exact isSome_of_insert hm (hs.imp_right fun heq => (InstallStep.far.inj heq).1)
    | session | pdr | urr =>
      obtain ⟨m, -, rfl⟩ := hc
      exact hs.resolve_right (by simp)
  | urr k v =>
    cases s with
    | urr k' v' =>
      obtain ⟨m, hm, rfl⟩ := hc
      exact isSome_of_insert hm (hs.imp_right fun heq => (InstallStep.urr.inj heq).1)
    | session | pdr | far =>
      obtain ⟨m, -, rfl⟩ := hc
      exact hs.resolve_right (by simp)

theorem isSome_eraseAll {cap : ℕ} {K V : Type} [DecidableEq K] {t : BoundedTable cap K V} {k : K}
    {new : UInt64 → UInt32 → K} {seid : UInt64} {ids : List UInt32} (hk : ∀ id, k ≠ new seid id)
    (h : (t.lookup k).isSome) : ((t.eraseAll (ids.map (new seid))).lookup k).isSome := by
  rwa [BoundedTable.lookup_eraseAll, if_neg (notMem_map_new hk)]

/-- A section of a deletion removes no rule of a SEID with other keys. -/
theorem perform_rulePresent {s : InstallStep} {sec : DeletionSection} {env : Env} {d : Deletion}
    {m : Maps} {seid : UInt64} {key : SessionKey} {cpSeid : UInt64} (hfor : s.For seid key cpSeid)
    (hne : ∀ i j, composeKey seid i ≠ composeKey d.seid j) (h : RulePresent m s) :
    RulePresent (sec.perform env d m).2 s := by
  cases s with
  | session => trivial
  | pdr k v =>
    obtain ⟨id, rfl⟩ := hfor
    cases sec with
    | removePdrs => exact isSome_eraseAll (fun j heq => hne id j (PdrKey.mk.inj heq)) h
    | readSession | readPdrs | removeFars | removeUrrs | removeSession => exact h
  | far k v =>
    obtain ⟨id, rfl⟩ := hfor
    cases sec with
    | removeFars => exact isSome_eraseAll (fun j heq => hne id j (FarKey.mk.inj heq)) h
    | readSession | readPdrs | removePdrs | removeUrrs | removeSession => exact h
  | urr k v =>
    obtain ⟨⟨id, rfl⟩, -⟩ := hfor
    cases sec with
    | removeUrrs => exact isSome_eraseAll (fun j heq => hne id j (UrrKey.mk.inj heq)) h
    | readSession | readPdrs | removePdrs | removeFars | removeSession => exact h

/-- The rules of all inserts made so far are there. -/
def RulesIn (all : List InstallStep) (r : Race) : Prop :=
  match r.progress with
  | .waiting => False
  | .inserting _ _ _ left =>
    ∃ made, all = made ++ left ∧ ∀ s ∈ made, RulePresent r.world.maps s
  | .done true => ∀ s ∈ all, RulePresent r.world.maps s
  | .done false => True

/-- **One turn keeps the rules of the new session**, whoever's it is. -/
theorem RulesIn.turn {all : List InstallStep} {seid : UInt64} {key : SessionKey} {cpSeid : UInt64}
    (hfor : ∀ s ∈ all, s.For seid key cpSeid)
    (hne : ∀ i j, composeKey seid i ≠ composeKey r.deletion.seid j) (h : RulesIn all r) (t : Task) :
    RulesIn all (r.turn c t) := by
  unfold RulesIn at h
  cases t with
  | deletion =>
    unfold RulesIn
    rw [(turn_deletion r).1]
    have hkeep : ∀ s ∈ all, RulePresent r.world.maps s →
        RulePresent (r.turn c .deletion).world.maps s := by
      intro s hs hpres
      simp only [Race.turn]
      split
      · exact hpres
      · exact perform_rulePresent (hfor s hs) hne hpres
    cases hp : r.progress with
    | waiting => rw [hp] at h; exact h
    | inserting nodeId seid data left =>
      rw [hp] at h
      obtain ⟨made, rfl, hmade⟩ := h
      exact ⟨made, rfl, fun s hs => hkeep s (List.mem_append_left _ hs) (hmade s hs)⟩
    | done accepted =>
      rw [hp] at h
      cases accepted with
      | true => exact fun s hs => hkeep s hs (h s hs)
      | false => trivial
  | establishment =>
    unfold RulesIn
    cases hp : r.progress with
    | waiting => rw [hp] at h; exact absurd h id
    | inserting nodeId seid data left =>
      rw [hp] at h
      obtain ⟨made, rfl, hmade⟩ := h
      cases left with
      | nil =>
        simp only [Race.turn, hp, Progress.advance]
        rw [List.append_nil]
        exact hmade
      | cons s ss =>
        simp only [Race.turn, hp, Progress.advance]
        cases hs : s.apply r.world with
        | none => trivial
        | some w' =>
          refine ⟨made ++ [s], by rw [List.append_assoc]; rfl, fun s' hs' => ?_⟩
          refine apply_rulePresent hs ?_
          rcases List.mem_append.mp hs' with hm | hm
          · exact .inl (hmade s' hm)
          · exact .inr (List.mem_singleton.mp hm)
    | done accepted =>
      rw [hp] at h
      simp only [Race.turn, hp, Progress.advance]
      exact h

/-! ### The row of the UE address -/

/-- No SESSION_MAP insert is left to make. -/
def RowMade : Progress → Prop
  | .waiting => False
  | .inserting _ _ _ left => ∀ s ∈ left, ∀ k info, s ≠ .session k info
  | .done _ => True

/-- Behind its SESSION_MAP insert an establishment leaves that map alone. -/
theorem RowMade.advance {p : Progress} (h : RowMade p) (w : World) :
    RowMade (p.advance c w).1 ∧ (p.advance c w).2.maps.sessionMap = w.maps.sessionMap := by
  cases p with
  | waiting => exact absurd h id
  | done accepted => exact ⟨trivial, rfl⟩
  | inserting nodeId seid data left =>
    cases left with
    | nil => exact ⟨trivial, rfl⟩
    | cons s ss =>
      simp only [Progress.advance]
      cases hs : s.apply w with
      | none => exact ⟨trivial, rfl⟩
      | some w' =>
        refine ⟨fun s' hs' => h s' (List.mem_cons_of_mem _ hs'), ?_⟩
        have hc := s.apply_some hs
        cases s with
        | session k info => exact absurd rfl (h _ (List.mem_cons_self ..) k info)
        | pdr | far | urr =>
          obtain ⟨m, -, rfl⟩ := hc
          rfl

/-- A deletion that is done leaves the row alone. -/
theorem row_kept {k : SessionKey} {info : SessionInfo} (hleft : r.left = [])
    (hmade : RowMade r.progress) (hrow : r.world.maps.sessionMap.lookup k = some info) :
    (run (Race.turn c) r sched).world.maps.sessionMap.lookup k = some info := by
  have hinv : (run (Race.turn c) r sched).left = [] ∧ RowMade (run (Race.turn c) r sched).progress ∧
      (run (Race.turn c) r sched).world.maps.sessionMap.lookup k = some info := by
    refine run_inv_of_step (P := fun r : Race => r.left = [] ∧ RowMade r.progress ∧
      r.world.maps.sessionMap.lookup k = some info) ?_ ⟨hleft, hmade, hrow⟩
    rintro r t ⟨hl, hm, hr⟩
    cases t with
    | deletion =>
      have hsame : r.turn c .deletion = r := by simp only [Race.turn, hl]
      rw [hsame]
      exact ⟨hl, hm, hr⟩
    | establishment =>
      obtain ⟨hm', heq⟩ := hm.advance (c := c) r.world
      exact ⟨hl, hm', (congrArg (BoundedTable.lookup · k) heq).trans hr⟩
  exact hinv.2.2

/-- A deletion that still has its last section to go removes the row. -/
theorem row_lost (hlast : .removeSession ∈ r.left) (hmade : RowMade r.progress)
    (hdone : (run (Race.turn c) r sched).left = []) :
    (run (Race.turn c) r sched).world.maps.sessionMap.lookup r.deletion.key = none := by
  generalize hkey : r.deletion.key = k
  have hinv : (.removeSession ∈ (run (Race.turn c) r sched).left ∨
      (run (Race.turn c) r sched).world.maps.sessionMap.lookup k = none) ∧
      RowMade (run (Race.turn c) r sched).progress ∧
      (run (Race.turn c) r sched).deletion.key = k := by
    refine run_inv_of_step (P := fun r : Race => (.removeSession ∈ r.left ∨
      r.world.maps.sessionMap.lookup k = none) ∧ RowMade r.progress ∧ r.deletion.key = k) ?_
      ⟨.inl hlast, hmade, hkey⟩
    rintro r t ⟨hl, hm, hk⟩
    cases t with
    | deletion =>
      refine ⟨?_, by rw [(turn_deletion r).1]; exact hm,
        (run_deletion (c := c) [.deletion] r).2.trans hk⟩
      simp only [Race.turn]
      split
      · exact hl
      · next s ss hleft =>
        rw [hleft] at hl
        cases s with
        | removeSession =>
          right
          refine (BoundedTable.lookup_erase_ite _ _ _).trans (if_pos hk.symm)
        | readSession | readPdrs | removePdrs | removeFars | removeUrrs =>
          exact hl.imp_left fun hmem => (List.mem_cons.mp hmem).resolve_left (by simp)
    | establishment =>
      obtain ⟨hm', heq⟩ := hm.advance (c := c) r.world
      exact ⟨hl.imp_right fun hr => (congrArg (BoundedTable.lookup · k) heq).trans hr, hm', hk⟩
  rw [hdone] at hinv
  exact hinv.1.resolve_left List.not_mem_nil

/-! ### The outcome -/

/-- The last section is still to come until all turns of the deletion are over. -/
theorem removeSession_mem {n : ℕ} (h : n < DeletionSection.all.length) :
    .removeSession ∈ DeletionSection.all.drop n := by
  have hall : ∀ n < 6, .removeSession ∈ DeletionSection.all.drop n := by decide
  exact hall n h

theorem RulesIn.run {all : List InstallStep} {seid : UInt64} {key : SessionKey} {cpSeid : UInt64}
    (hfor : ∀ s ∈ all, s.For seid key cpSeid)
    (hne : ∀ i j, composeKey seid i ≠ composeKey r.deletion.seid j) (h : RulesIn all r) :
    RulesIn all (run (Race.turn c) r sched) := by
  generalize hold : r.deletion.seid = old at hne
  have hinv : RulesIn all (Lib.run (Race.turn c) r sched) ∧
      (Lib.run (Race.turn c) r sched).deletion.seid = old := by
    refine run_inv_of_step (P := fun r : Race => RulesIn all r ∧ r.deletion.seid = old)
      (fun r t hr => ⟨hr.1.turn hfor ?_ t, (run_deletion (c := c) [t] r).1.trans hr.2⟩) ⟨h, hold⟩
    rw [hr.2]
    exact hne
  exact hinv.1

/-- The rules of all inserts of an establishment are the rules of its request. -/
theorem up_of_row {e : Endian} {env : Env} {n3Addr : Ipv4Addr} {seid : UInt64} {teid : UInt32}
    {ueIp : Ipv4Addr} {gnbInfo : OuterHeaderCreation} {req : SessionEstablishmentReq} {m : Maps}
    (h : ∀ s ∈ installSteps e env n3Addr seid teid ueIp gnbInfo req, RulePresent m s)
    (hrow : ∃ info, m.sessionMap.lookup (.ofIp e ueIp) = some info ∧ info.seid = seid) :
    Up e seid ueIp req m := by
  unfold installSteps at h
  refine ⟨hrow, fun p hp => ?_, fun f hf => ?_, fun u hu => ?_⟩
  · refine h (.pdr _ (pdrValue e ueIp p)) (List.mem_cons_of_mem _ ?_)
    exact List.mem_append_left _ (List.mem_append_left _ (List.mem_map_of_mem hp))
  · refine h (.far _ (farValue e n3Addr f)) (List.mem_cons_of_mem _ ?_)
    exact List.mem_append_left _ (List.mem_append_right _ (List.mem_map_of_mem hf))
  · rw [← List.zipIdx_map_fst 0 req.createUrrs] at hu
    obtain ⟨p, hp, rfl⟩ := List.mem_map.mp hu
    refine h (.urr _ (urrConfig seid req.cpSeid (env.now p.2) p.1)) (List.mem_cons_of_mem _ ?_)
    exact List.mem_append_right _ (List.mem_map_of_mem hp)

/-- The first insert of an establishment is the one into SESSION_MAP, and the only one. -/
theorem installSteps_cons (e : Endian) (env : Env) (n3Addr : Ipv4Addr) (seid : UInt64)
    (teid : UInt32) (ueIp : Ipv4Addr) (gnbInfo : OuterHeaderCreation)
    (req : SessionEstablishmentReq) : ∃ rest,
      installSteps e env n3Addr seid teid ueIp gnbInfo req =
        .session (.ofIp e ueIp) (sessionInfo e n3Addr seid teid gnbInfo req.createPdrs) :: rest ∧
      ∀ s ∈ rest, ∀ k info, s ≠ .session k info := by
  refine ⟨_, rfl, fun s hs k info => ?_⟩
  simp only [List.mem_append, List.mem_map] at hs
  rcases hs with (⟨_, -, rfl⟩ | ⟨_, -, rfl⟩) | ⟨_, -, rfl⟩ <;> simp

/-- The turn that is for the SESSION_MAP row: the establishment fails, or the row is made. -/
theorem turn_session {nodeId : Ipv4Addr} {seid : UInt64} {session : SessionData} {key : SessionKey}
    {info : SessionInfo} {rest : List InstallStep}
    (hprog : r.progress = .inserting nodeId seid session (.session key info :: rest)) :
    (r.turn c .establishment).progress = .done false ∨
      ∃ w', r.turn c .establishment =
          { r with world := w', progress := .inserting nodeId seid session rest } ∧
        w'.maps.sessionMap.lookup key = some info := by
  cases happ : (InstallStep.session key info).apply r.world with
  | none =>
    refine .inl ?_
    simp only [Race.turn, hprog, Progress.advance, happ]
  | some w' =>
    refine .inr ⟨w', ?_, ?_⟩
    · simp only [Race.turn, hprog, Progress.advance, happ]
    · obtain ⟨m, hm, rfl⟩ := InstallStep.apply_some happ
      exact (BoundedTable.lookup_of_insert hm _).trans (if_pos rfl)

/-- The outcome of a schedule, by where the SESSION_MAP insert stands in it. -/
theorem up_iff_of_split {seid : UInt64} {data : SessionData} {w : World} {pre post : List Task}
    (hne : ∀ i j, composeKey w.srv.nextSeid i ≠ composeKey seid j)
    (hue : c.req.createPdrs.findSome? (·.ueIp) = some data.ueIp)
    (hpre : pre.count .establishment = 1)
    (hfin : (run (Race.turn c) (.start c.host.endian seid data w)
      (pre ++ .establishment :: post)).Finished) :
    Up c.host.endian w.srv.nextSeid data.ueIp c.req
        (run (Race.turn c) (.start c.host.endian seid data w)
          (pre ++ .establishment :: post)).world.maps ↔
      DeletionSection.all.length ≤ pre.count .deletion := by
  obtain ⟨hdel, hest⟩ := hfin
  have hprog := run_one_establishment (c := c) pre (.start c.host.endian seid data w) rfl hpre
  have hleft : _ = DeletionSection.all.drop _ :=
    run_left (c := c) pre (.start c.host.endian seid data w)
  obtain ⟨hseid, hkey⟩ := run_deletion (c := c) pre (.start c.host.endian seid data w)
  rw [run_append] at hdel hest ⊢
  generalize run (Race.turn c) (.start c.host.endian seid data w) pre = r at *
  rcases lock_cases c w.srv with hrefused | ⟨nodeId, ueIp, gnbInfo, session, hue', hlock⟩
  · rw [run_done (hprog.trans hrefused)] at hest
    cases hest
  obtain rfl : ueIp = data.ueIp := Option.some.inj (hue'.symm.trans hue)
  replace hprog := hprog.trans hlock
  -- the rules are there in the end, whatever the order
  have hstart : RulesIn (installSteps c.host.endian c.estEnv w.srv.n3Addr w.srv.nextSeid
      w.srv.nextTeid data.ueIp gnbInfo c.req) r := by
    unfold RulesIn
    rw [hprog]
    exact ⟨[], rfl, by simp⟩
  have hrules : RulesIn _ (run (Race.turn c) r (.establishment :: post)) :=
    hstart.run (fun s hs => installSteps_for hs) (by rw [hseid]; exact hne)
  unfold RulesIn at hrules
  rw [hest] at hrules
  -- the row is made at this turn
  rw [run_cons] at hdel hest hrules ⊢
  obtain ⟨rest, hsteps, hrest⟩ := installSteps_cons c.host.endian c.estEnv w.srv.n3Addr
    w.srv.nextSeid w.srv.nextTeid data.ueIp gnbInfo c.req
  rw [hsteps] at hprog
  generalize hinfo : sessionInfo c.host.endian w.srv.n3Addr w.srv.nextSeid w.srv.nextTeid gnbInfo
    c.req.createPdrs = info at hprog
  rcases turn_session hprog with hturn | ⟨w', hturn, hrow⟩
  · rw [run_done hturn] at hest
    cases hest
  have hmade : RowMade (r.turn c .establishment).progress := by
    rw [hturn]
    exact hrest
  constructor
  · intro hup
    by_contra hlt
    have hlast : .removeSession ∈ (r.turn c .establishment).left := by
      rw [hturn]
      change .removeSession ∈ r.left
      rw [hleft]
      exact removeSession_mem (by omega)
    have hnone := row_lost hlast hmade hdel
    obtain ⟨info', hsome, -⟩ := hup.row
    have hkey' : (r.turn c .establishment).deletion.key = .ofIp c.host.endian data.ueIp := hkey
    rw [hkey', hsome] at hnone
    cases hnone
  · intro hge
    have hempty : (r.turn c .establishment).left = [] := by
      rw [hturn]
      change r.left = []
      rw [hleft]
      exact List.drop_eq_nil_of_le hge
    refine up_of_row hrules ⟨info, ?_, by rw [← hinfo]; rfl⟩
    exact row_kept hempty hmade (by rw [hturn]; exact hrow)

/-- The outcome of a schedule that finishes both tasks. -/
theorem up_iff_insertsLast {seid : UInt64} {data : SessionData} {w : World}
    (hne : ∀ i j, composeKey w.srv.nextSeid i ≠ composeKey seid j)
    (hue : c.req.createPdrs.findSome? (·.ueIp) = some data.ueIp)
    (hfin : (run (Race.turn c) (.start c.host.endian seid data w) sched).Finished) :
    Up c.host.endian w.srv.nextSeid data.ueIp c.req
      (run (Race.turn c) (.start c.host.endian seid data w) sched).world.maps ↔
      InsertsLast sched := by
  constructor
  · intro hup
    have htwo : 1 < sched.count .establishment := by
      by_contra hle
      have hest := hfin.establishment
      rcases Nat.le_one_iff_eq_zero_or_eq_one.mp (Nat.not_lt.mp hle) with hzero | hone
      · rw [run_no_establishment sched _ hzero] at hest
        cases hest
      · rw [run_one_establishment sched _ rfl hone] at hest
        rcases lock_cases c w.srv with hrefused | ⟨nodeId, ueIp, gnbInfo, session, -, hlock⟩
        · cases hest.symm.trans hrefused
        · cases hest.symm.trans hlock
    obtain ⟨pre, post, rfl, hpre⟩ := exists_split_count htwo
    exact ⟨pre, post, rfl, hpre, (up_iff_of_split hne hue hpre hfin).mp hup⟩
  · rintro ⟨pre, post, rfl, hpre, hge⟩
    exact (up_iff_of_split hne hue hpre hfin).mpr hge

end Turns

/-- What the deletion finds under the server lock when it is accepted. -/
theorem deletionLock_ok {env : Env} {seid : UInt64} {src : SocketAddr} {w w' : World}
    {data : SessionData} (h : deletionLock env seid src w = (.ok data, w')) :
    w.srv.sessions.lookup seid = some data ∧ w'.srv.nextSeid = w.srv.nextSeid := by
  unfold deletionLock at h
  cases hs : w.srv.sessions.lookup seid with
  | none => simp [hs] at h
  | some existing =>
    cases src with
    | v6 => simp [hs] at h
    | v4 ip port =>
      simp only [hs] at h
      cases hf : findAssociation env w.srv (.v4 ip port) with
      | none => simp [hf] at h
      | some assoc =>
        simp only [hf] at h
        split_ifs at h
        · obtain ⟨hok, rfl⟩ := Prod.mk.inj h
          exact ⟨congrArg some (Except.ok.inj hok), rfl⟩
        · cases (Prod.mk.inj h).1

namespace Audit

/-- **The race.**  In every state that a run reaches with SEIDs below `2 ^ 48`, an accepted deletion
has left the server lock and an establishment for the same UE address is accepted.  Whatever the
schedule that brings both to their end, the new session is whole exactly when it makes its
SESSION_MAP row after the deletion is through. -/
theorem race_up_iff (c : Contest) (b : Boot) (evs : List Event)
    (hm : Meets (step c.host) (IssuesBelow (2 ^ 48)) (init b) evs)
    (hlt : (after c.host b evs).srv.nextSeid.toNat < 2 ^ 48) (seid : UInt64) (src : SocketAddr)
    (data : SessionData) (w : World)
    (hdel : deletionLock c.delEnv seid src (after c.host b evs).world = (.ok data, w))
    (hue : c.req.createPdrs.findSome? (·.ueIp) = some data.ueIp) (sched : List Task)
    (hfin : (run (Race.turn c) (.start c.host.endian seid data w) sched).Finished) :
    Up c.host.endian (after c.host b evs).srv.nextSeid data.ueIp c.req
        (run (Race.turn c) (.start c.host.endian seid data w) sched).world.maps ↔
      InsertsLast sched := by
  obtain ⟨hlive, hnext⟩ := deletionLock_ok hdel
  obtain ⟨hissued, -⟩ := after_issued (n := 2 ^ 48) (by decide) (by decide) hm
  have hold : seid.toNat < (after c.host b evs).srv.nextSeid.toNat := hissued.live hlive
  have hne : ∀ i j, composeKey w.srv.nextSeid i ≠ composeKey seid j := by
    intro i j heq
    rw [hnext] at heq
    rw [composeKey_inj_seid hlt (hold.trans hlt) heq] at hold
    exact Nat.lt_irrefl _ hold
  rw [← hnext]
  exact up_iff_insertsLast hne hue hfin

section Sim

open SmfSim

/-- The simulator deletes its session for a UE and establishes a new one for it. -/
def reattach : Contest where
  host := host
  delEnv := env
  estEnv := env
  src := peer smfA
  req := (establishmentOf (sessionEstablishment 2 smfA ue1 gnb 0x80000002)).get (by decide +kernel)

/-- The turns of the race over session 1, from the world that the deletion leaves the server lock
with. -/
def reattached (w : World) (sched : List Task) : Race :=
  run (Race.turn reattach) (.start reattach.host.endian 1 ⟨ue1, 1000, gnb, 1⟩ w) sched

/-- The deletion first, then the establishment. -/
def sequential : List Task := List.replicate 6 .deletion ++ List.replicate 10 .establishment

/-- The whole deletion right behind the SESSION_MAP insert of the establishment. -/
def crossed : List Task :=
  List.replicate 2 .establishment ++ List.replicate 6 .deletion ++ List.replicate 8 .establishment

/-- The deletion of session 1 is accepted, and both schedules bring both tasks to their end. -/
theorem reattach_locked : ∃ w, deletionLock reattach.delEnv 1 (peer smfA)
      (after reattach.host boot [setup smfA 1, establish smfA 1 ue1]).world =
        (.ok ⟨ue1, 1000, gnb, 1⟩, w) ∧
    (reattached w sequential).Finished ∧ (reattached w crossed).Finished ∧
    (reattached w crossed).world.maps.sessionMap.lookup
      (.ofIp reattach.host.endian ue1) = none := by
  generalize hout : deletionLock reattach.delEnv 1 (peer smfA)
    (after reattach.host boot [setup smfA 1, establish smfA 1 ue1]).world = out
  have hok : out.1.toOption = some ⟨ue1, 1000, gnb, 1⟩ := by
    rw [← hout]
    decide +kernel
  refine ⟨out.2, ?_, ?_, ?_, ?_⟩
  · obtain ⟨_ | data, w⟩ := out
    · cases hok
    · rw [← Option.some.inj hok]
  all_goals
    rw [← hout]
    decide +kernel

/-- One after the other, the new session is up. -/
theorem race_up_iff_sequential : ∃ w, deletionLock reattach.delEnv 1 (peer smfA)
      (after reattach.host boot [setup smfA 1, establish smfA 1 ue1]).world =
        (.ok ⟨ue1, 1000, gnb, 1⟩, w) ∧
    Up reattach.host.endian
      (after reattach.host boot [setup smfA 1, establish smfA 1 ue1]).srv.nextSeid ue1 reattach.req
      (reattached w sequential).world.maps := by
  obtain ⟨w, hdel, hfin, -⟩ := reattach_locked
  have hlast : InsertsLast sequential :=
    ⟨List.replicate 6 .deletion ++ [.establishment], List.replicate 8 .establishment, rfl, rfl,
      by decide⟩
  have hlt : (after reattach.host boot [setup smfA 1, establish smfA 1 ue1]).srv.nextSeid.toNat <
      2 ^ 48 := by
    decide +kernel
  exact ⟨w, hdel, (race_up_iff reattach boot [setup smfA 1, establish smfA 1 ue1]
    (by decide +kernel) hlt 1 (peer smfA) ⟨ue1, 1000, gnb, 1⟩ w hdel (by decide +kernel) _
    hfin).mpr hlast⟩

/-- The establishment makes its row before the deletion is through: both are accepted and finish,
and the new session has no row. -/
theorem not_up_crossed : ∃ w, deletionLock reattach.delEnv 1 (peer smfA)
      (after reattach.host boot [setup smfA 1, establish smfA 1 ue1]).world =
        (.ok ⟨ue1, 1000, gnb, 1⟩, w) ∧
    (reattached w crossed).Finished ∧
      ¬ Up reattach.host.endian 2 ue1 reattach.req (reattached w crossed).world.maps := by
  obtain ⟨w, hdel, -, hfin, hnone⟩ := reattach_locked
  refine ⟨w, hdel, hfin, fun hup => ?_⟩
  obtain ⟨info, hrow, -⟩ := hup.row
  cases hrow.symm.trans hnone

end Sim

end Audit

end UpfEdge
