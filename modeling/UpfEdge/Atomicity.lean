import Mathlib.Data.List.Infix
import UpfEdge.Ledger
import UpfEdge.Services
import UpfEdge.SmfSim

/-!
# Traffic in the middle of an update

An establishment publishes its SESSION_MAP row first and then its rules one by one; a deletion
removes the rules and then the row.  Each insert and each removal is one step (`MapStep`), and a
frame may be processed between any two.

What a frame can see of a session is a `View`: the row of its UE address and the rules of the SEID
in it.  A row whose rules are missing forwards everything, and while they come in, or go, a FAR that
is to be second to another may be the first.  `mapSteps_atomic_iff` says, from the actions and the
endpoints of the FARs of the request, the row in place and the frame, exactly which frames get
nothing but the verdict before or the verdict after: those for which the change is `Unnoticed`.
-/

namespace UpfEdge

open Lib Pfcp Server Xdp

/-! ### Steps -/

/-- One insert into an eBPF map, or one removal. -/
inductive MapStep where
  | insertSession (key : SessionKey) (info : SessionInfo)
  | insertPdr (key : PdrKey) (value : PdrValue)
  | insertFar (key : FarKey) (value : FarValue)
  | insertUrr (key : UrrKey)
  | removePdr (key : PdrKey)
  | removeFar (key : FarKey)
  | removeUrr (key : UrrKey)
  | removeSession (key : SessionKey)

namespace MapStep

/-- `none` when the map is full. -/
def apply (m : Maps) : MapStep → Option Maps
  | .insertSession k info => (m.sessionMap.insert k info).map fun t => { m with sessionMap := t }
  | .insertPdr k v => (m.pdrMap.insert k v).map fun t => { m with pdrMap := t }
  | .insertFar k v => (m.farMap.insert k v).map fun t => { m with farMap := t }
  | .insertUrr k => (m.urrMap.insert k fun _ => {}).map fun t => { m with urrMap := t }
  | .removePdr k => some { m with pdrMap := m.pdrMap.erase k }
  | .removeFar k => some { m with farMap := m.farMap.erase k }
  | .removeUrr k => some { m with urrMap := m.urrMap.erase k }
  | .removeSession k => some { m with sessionMap := m.sessionMap.erase k }

/-- The steps a handler gets to make: it stops at the first that fails. -/
def performed : Maps → List MapStep → List MapStep
  | _, [] => []
  | m, s :: ss =>
    match s.apply m with
    | some m' => s :: performed m' ss
    | none => []

/-- The maps after a list of steps. -/
def applyAll (m : Maps) (ss : List MapStep) : Maps := ss.foldl (fun m s => (s.apply m).getD m) m

/-- The insert of an establishment, as far as the maps go. -/
def ofInstall : InstallStep → MapStep
  | .session k info => .insertSession k info
  | .pdr k v => .insertPdr k v
  | .far k v => .insertFar k v
  | .urr k _ => .insertUrr k

/-- The removals of a deletion, in order. -/
def ofDeletion (d : Deletion) : List MapStep :=
  d.pdrIds.map (fun id => .removePdr (.new d.seid id)) ++
    d.farIds.map (fun id => .removeFar (.new d.seid id)) ++
    d.urrIds.map (fun id => .removeUrr (.new d.seid id)) ++ [.removeSession d.key]

section

variable {m m' : Maps} {s : MapStep} {ss : List MapStep}

theorem performed_cons (h : s.apply m = some m') :
    performed m (s :: ss) = s :: performed m' ss := by
  simp only [performed, h]

theorem applyAll_cons (h : s.apply m = some m') : applyAll m (s :: ss) = applyAll m' ss := by
  simp only [applyAll, List.foldl_cons, h, Option.getD_some]

theorem performed_isPrefix : ∀ (ss : List MapStep) (m : Maps), performed m ss <+: ss
  | [], _ => List.prefix_rfl
  | s :: ss, m => by
    unfold performed
    split
    · exact List.cons_prefix_cons.mpr ⟨rfl, performed_isPrefix ss _⟩
    · exact List.nil_prefix

/-- Whatever first part of the performed steps is made again succeeds again. -/
theorem performed_of_isPrefix : ∀ {done : List MapStep} (ss : List MapStep) (m : Maps),
    done <+: performed m ss → performed m done = done
  | [], _, _, _ => rfl
  | s :: done, [], m, h => by cases List.prefix_nil.mp h
  | s :: done, s' :: ss, m, h => by
    cases hs : s'.apply m with
    | none =>
      simp only [performed, hs] at h
      cases List.prefix_nil.mp h
    | some m' =>
      rw [performed_cons hs] at h
      obtain ⟨rfl, hrest⟩ := List.cons_prefix_cons.mp h
      rw [performed_cons hs, performed_of_isPrefix ss m' hrest]

/-- The inserts of an establishment. -/
theorem install_maps : ∀ (ss : List InstallStep) (w : World),
    (install ss w).2.maps = applyAll w.maps (performed w.maps (ss.map ofInstall))
  | [], _ => rfl
  | s :: ss, w => by
    have hstep : (ofInstall s).apply w.maps = (s.apply w).map (·.maps) := by
      cases s <;> simp only [ofInstall, apply, InstallStep.apply, Option.map_map] <;> rfl
    cases hs : s.apply w with
    | none =>
      rw [hs, Option.map_none] at hstep
      simp only [install, hs, List.map_cons, performed, hstep]
      rfl
    | some w' =>
      rw [hs, Option.map_some] at hstep
      rw [List.map_cons, performed_cons hstep, applyAll_cons hstep, ← install_maps ss w']
      simp only [install, hs]

theorem applyAll_append (m : Maps) (ss ss' : List MapStep) :
    applyAll m (ss ++ ss') = applyAll (applyAll m ss) ss' := List.foldl_append ..

/-- Removals never fail. -/
theorem performed_eq_self : ∀ (ss : List MapStep) (m : Maps),
    (∀ s ∈ ss, ∀ m, (s.apply m).isSome) → performed m ss = ss
  | [], _, _ => rfl
  | s :: ss, m, h => by
    obtain ⟨m', hs⟩ := Option.isSome_iff_exists.mp (h s (List.mem_cons_self ..) m)
    rw [performed_cons hs, performed_eq_self ss m' fun t ht => h t (List.mem_cons_of_mem _ ht)]

theorem performed_ofDeletion (d : Deletion) (m : Maps) :
    performed m (ofDeletion d) = ofDeletion d := by
  refine performed_eq_self _ m fun s hs m => ?_
  simp only [ofDeletion, List.mem_append, List.mem_map, List.mem_singleton] at hs
  rcases hs with ((⟨_, -, rfl⟩ | ⟨_, -, rfl⟩) | ⟨_, -, rfl⟩) | rfl <;> rfl

/-- The removals of a deletion. -/
theorem applyAll_ofDeletion (d : Deletion) (m : Maps) : applyAll m (ofDeletion d) = d.remove m := by
  have hpdr : ∀ (ids : List UInt32) (m : Maps),
      applyAll m (ids.map fun id => .removePdr (.new d.seid id)) =
        { m with pdrMap := m.pdrMap.eraseAll (ids.map (PdrKey.new d.seid)) } := by
    intro ids
    induction ids with
    | nil => exact fun _ => rfl
    | cons id ids ih => exact fun m => ih { m with pdrMap := m.pdrMap.erase (.new d.seid id) }
  have hfar : ∀ (ids : List UInt32) (m : Maps),
      applyAll m (ids.map fun id => .removeFar (.new d.seid id)) =
        { m with farMap := m.farMap.eraseAll (ids.map (FarKey.new d.seid)) } := by
    intro ids
    induction ids with
    | nil => exact fun _ => rfl
    | cons id ids ih => exact fun m => ih { m with farMap := m.farMap.erase (.new d.seid id) }
  have hurr : ∀ (ids : List UInt32) (m : Maps),
      applyAll m (ids.map fun id => .removeUrr (.new d.seid id)) =
        { m with urrMap := m.urrMap.eraseAll (ids.map (UrrKey.new d.seid)) } := by
    intro ids
    induction ids with
    | nil => exact fun _ => rfl
    | cons id ids ih => exact fun m => ih { m with urrMap := m.urrMap.erase (.new d.seid id) }
  rw [ofDeletion, applyAll_append, applyAll_append, applyAll_append, hpdr, hfar, hurr]
  rfl

end

end MapStep

/-! ### Views -/

/-- What a frame can see of a session: the row at a key, and the rules of a SEID. -/
structure View where
  row : Option SessionInfo
  rules : Rules

def view (m : Maps) (k : SessionKey) (seid : UInt64) : View where
  row := m.sessionMap.lookup k
  rules := rulesOf m seid

/-- What a step does to a view. -/
def MapStep.effect (k : SessionKey) (seid : UInt64) (v : View) : MapStep → View
  | .insertSession k' info => { v with row := if k = k' then some info else v.row }
  | .insertPdr k' value => { v with rules := { v.rules with
      pdr := fun id => if PdrKey.new seid id = k' then some value else v.rules.pdr id } }
  | .insertFar k' value => { v with rules := { v.rules with
      far := fun id => if FarKey.new seid id = k' then some value else v.rules.far id } }
  | .removePdr k' => { v with rules := { v.rules with
      pdr := fun id => if PdrKey.new seid id = k' then none else v.rules.pdr id } }
  | .removeFar k' => { v with rules := { v.rules with
      far := fun id => if FarKey.new seid id = k' then none else v.rules.far id } }
  | .removeSession k' => { v with row := if k = k' then none else v.row }
  | .insertUrr _ | .removeUrr _ => v

section Views

variable {m m' : Maps} {s : MapStep} {ss : List MapStep} {k : SessionKey} {seid : UInt64}

theorem view_apply (h : s.apply m = some m') :
    view m' k seid = s.effect k seid (view m k seid) := by
  cases s with
  | insertSession k' info =>
    obtain ⟨t, ht, rfl⟩ := Option.map_eq_some_iff.mp h
    simp only [view, MapStep.effect, BoundedTable.lookup_of_insert ht]
    rfl
  | insertPdr k' v =>
    obtain ⟨t, ht, rfl⟩ := Option.map_eq_some_iff.mp h
    simp only [view, rulesOf, MapStep.effect, BoundedTable.lookup_of_insert ht]
  | insertFar k' v =>
    obtain ⟨t, ht, rfl⟩ := Option.map_eq_some_iff.mp h
    simp only [view, rulesOf, MapStep.effect, BoundedTable.lookup_of_insert ht]
  | insertUrr k' =>
    obtain ⟨t, -, rfl⟩ := Option.map_eq_some_iff.mp h
    rfl
  | removePdr k' =>
    obtain rfl := Option.some.inj h
    simp only [view, rulesOf, MapStep.effect, BoundedTable.lookup_erase_ite]
  | removeFar k' =>
    obtain rfl := Option.some.inj h
    simp only [view, rulesOf, MapStep.effect, BoundedTable.lookup_erase_ite]
  | removeUrr k' =>
    obtain rfl := Option.some.inj h
    rfl
  | removeSession k' =>
    obtain rfl := Option.some.inj h
    simp only [view, MapStep.effect, BoundedTable.lookup_erase_ite]
    rfl

/-- The view after steps that all succeed. -/
theorem view_applyAll : ∀ (ss : List MapStep) (m : Maps), MapStep.performed m ss = ss →
    view (MapStep.applyAll m ss) k seid = ss.foldl (MapStep.effect k seid) (view m k seid)
  | [], _, _ => rfl
  | s :: ss, m, h => by
    cases hs : s.apply m with
    | none => simp [MapStep.performed, hs] at h
    | some m' =>
      rw [MapStep.performed_cons hs] at h
      rw [MapStep.applyAll_cons hs, view_applyAll ss m' (List.cons.inj h).2, view_apply hs]
      rfl

/-- The verdict on a frame is a matter of its view. -/
theorem verdict_of_view {e : Endian} {fr : Frame} (hk : fr.key e = some k)
    (hseid : ∀ info, m.sessionMap.lookup k = some info → info.seid = seid) :
    fr.verdict e m = match (view m k seid).row with
      | none => .pass
      | some info => fr.render e (fr.ruling e (view m k seid).rules info) := by
  rw [Frame.verdict_eq, hk, Option.bind_some]
  simp only [view]
  cases hrow : m.sessionMap.lookup k with
  | none => rfl
  | some info => rw [← hseid info hrow]

/-- Steps that each leave a part of the view alone leave it alone together. -/
theorem foldl_effect {γ : Type} (g : View → γ) (h : ∀ s ∈ ss, ∀ v, g (s.effect k seid v) = g v)
    (v : View) : g (ss.foldl (MapStep.effect k seid) v) = g v :=
  List.foldlRecOn (motive := fun v' => g v' = g v) ss _ rfl fun v' hv s hs => (h s hs v').trans hv

/-- Steps that change no view of the frame change no verdict. -/
theorem verdict_applyAll {e : Endian} {fr : Frame} (h : MapStep.performed m ss = ss)
    (hrow : ∀ k, fr.key e = some k → ∀ s ∈ ss, ∀ seid v, (s.effect k seid v).row = v.row)
    (hrules : ∀ k info, fr.key e = some k → m.sessionMap.lookup k = some info →
      ∀ s ∈ ss, ∀ v, (s.effect k info.seid v).rules = v.rules) :
    fr.verdict e (MapStep.applyAll m ss) = fr.verdict e m := by
  rw [Frame.verdict_eq, Frame.verdict_eq]
  cases hk : fr.key e with
  | none => rfl
  | some k =>
    have hsame : (MapStep.applyAll m ss).sessionMap.lookup k = m.sessionMap.lookup k := by
      have hview : view (MapStep.applyAll m ss) k 0 = _ := view_applyAll ss m h
      exact (congrArg View.row hview).trans
        (foldl_effect View.row (fun s hs v => hrow k hk s hs 0 v) _)
    rw [Option.bind_some, Option.bind_some, hsame]
    cases hinfo : m.sessionMap.lookup k with
    | none => rfl
    | some info =>
      have hview : view (MapStep.applyAll m ss) k info.seid = _ := view_applyAll ss m h
      have hrules' : rulesOf (MapStep.applyAll m ss) info.seid = rulesOf m info.seid :=
        (congrArg View.rules hview).trans (foldl_effect View.rules (hrules k info hk hinfo) _)
      simp only [hrules']

end Views

/-! ### Whose steps they are -/

/-- The step is one for the session `seid`, whose row stands at `key`. -/
def MapStep.For (seid : UInt64) (key : SessionKey) : MapStep → Prop
  | .insertSession k _ | .removeSession k => k = key
  | .insertPdr k _ | .removePdr k => ∃ id, k = .new seid id
  | .insertFar k _ | .removeFar k => ∃ id, k = .new seid id
  | .insertUrr k | .removeUrr k => ∃ id, k = .new seid id

section For

variable {s : MapStep} {k key : SessionKey} {seid t : UInt64}

theorem MapStep.For.row (h : s.For seid key) (hk : k ≠ key) (v : View) :
    (s.effect k t v).row = v.row := by
  cases s with
  | insertSession | removeSession =>
    obtain rfl := h
    simp only [MapStep.effect, if_neg hk]
  | _ => rfl

/-- Rules of another session are left alone. -/
theorem MapStep.For.rules (h : s.For seid key) (hseid : seid.toNat < 2 ^ 48) (ht : t.toNat < 2 ^ 48)
    (hne : t ≠ seid) (v : View) : (s.effect k t v).rules = v.rules := by
  have hkey : ∀ i j, composeKey t i ≠ composeKey seid j :=
    fun i j heq => hne (composeKey_inj_seid ht hseid heq)
  cases s with
  | insertPdr | removePdr =>
    obtain ⟨id, rfl⟩ := h
    simp only [MapStep.effect, PdrKey.new, PdrKey.mk.injEq, hkey, if_false]
  | insertFar | removeFar =>
    obtain ⟨id, rfl⟩ := h
    simp only [MapStep.effect, FarKey.new, FarKey.mk.injEq, hkey, if_false]
  | _ => rfl

end For

/-! ### The two changes -/

/-- An establishment that gets as far as its inserts. -/
structure Insertion where
  n3Addr : Ipv4Addr
  seid : UInt64
  teid : UInt32
  ueIp : Ipv4Addr
  gnbInfo : OuterHeaderCreation
  req : SessionEstablishmentReq

namespace Insertion

/-- The row it publishes. -/
def row (e : Endian) (x : Insertion) : SessionInfo :=
  sessionInfo e x.n3Addr x.seid x.teid x.gnbInfo x.req.createPdrs

/-- Its inserts, were there room for all of them. -/
def steps (e : Endian) (env : Env) (x : Insertion) : List MapStep :=
  (installSteps e env x.n3Addr x.seid x.teid x.ueIp x.gnbInfo x.req).map MapStep.ofInstall

/-- The FARs it asks for that there is room for: the row and the PDRs come first. -/
def fars (e : Endian) (env : Env) (m : Maps) (x : Insertion) : List ParsedFAR :=
  x.req.createFars.take
    ((MapStep.performed m (x.steps e env)).length - 1 - x.req.createPdrs.length)

/-- The service of the session with the FARs `fars` of the request. -/
def service (e : Endian) (x : Insertion) (fars : List ParsedFAR) : Service :=
  .requested e x.n3Addr x.ueIp x.teid x.gnbInfo { x.req with createFars := fars }

/-- The services on the way to the one the request asks for: its FARs come in one by one. -/
def way (e : Endian) (env : Env) (m : Maps) (x : Insertion) : List Service :=
  (x.fars e env m).inits.map (x.service e)

/-- The rows of the PDRs it lists. -/
def pdrs (e : Endian) (x : Insertion) : List PdrValue := pdrRows e x.ueIp x.req.createPdrs

/-- A FAR that comes in behind `before` comes to decide on the frame. -/
def Decides (e : Endian) (x : Insertion) (before : List ParsedFAR) (far : ParsedFAR) :
    Frame → Prop
  | .n3 _ f => ∃ p ∈ parseUplink e f, UpfEdge.Decides ifaceAccess p.tuple (x.pdrs e) before far
  | .n6 _ f => ∃ t ∈ parseDownlink e f, UpfEdge.Decides ifaceCore t (x.pdrs e) before far

/-- A FAR that comes in behind `before` comes to lead the frame. -/
def Leads (e : Endian) (x : Insertion) (before : List ParsedFAR) (far : ParsedFAR) : Frame → Prop
  | .n3 .. => False
  | .n6 .. => ComesToLead (x.pdrs e) before far

/-- The endpoint of the row: the gNB of the request and the TEID that the UPF allocated. -/
def endpoint (e : Endian) (x : Insertion) : UInt32 × UInt32 :=
  (e.toBe32 x.gnbInfo.peerAddr.toU32, e.toBe32 x.teid)

/-- Where a FAR leads the frames on N6. -/
def endpointOf (e : Endian) (x : Insertion) (far : ParsedFAR) : UInt32 × UInt32 :=
  let row := farValue e x.n3Addr far
  if isForw row then (row.gnbIp, row.teid) else x.endpoint e

/-- No FAR that comes to decide on the frame or to lead it has the action DROP. -/
def NoDrop (e : Endian) (env : Env) (m : Maps) (x : Insertion) (fr : Frame) : Prop :=
  ∀ before far after, x.fars e env m = before ++ far :: after →
    x.Decides e before far fr ∨ x.Leads e before far fr → isDrop (farValue e x.n3Addr far) = false

/-- The row, and every FAR that comes to lead the frame, leads it to an endpoint with `P`. -/
def LedTo (e : Endian) (env : Env) (m : Maps) (x : Insertion) (P : UInt32 × UInt32 → Prop) :
    Frame → Prop
  | .n3 .. => True
  | .n6 y f => P (x.endpoint e) ∧ ∀ before far after, x.fars e env m = before ++ far :: after →
      x.Leads e before far (.n6 y f) → P (x.endpointOf e far)

/-- The row leads the frame to an endpoint with `P`, and whenever the FAR that was the last to come
to lead it does not, that FAR or the one that was the last to come to decide on it has DROP. -/
def LedOrDropped (e : Endian) (env : Env) (m : Maps) (x : Insertion)
    (P : UInt32 × UInt32 → Prop) : Frame → Prop
  | .n3 .. => True
  | .n6 y f => P (x.endpoint e) ∧ ∀ part, part <+: x.fars e env m → ∀ led,
      Latest (x.Leads e · · (.n6 y f)) part led → ¬ P (x.endpointOf e led) →
        isDrop (farValue e x.n3Addr led) = true ∨
          ∃ far, Latest (x.Decides e · · (.n6 y f)) part far ∧
            isDrop (farValue e x.n3Addr far) = true

/-- What the request has to be like for a frame of the UE, whose head can be moved as sending it
needs (`fresh` to `stopped`) or not (`stuck`), not to notice how its rules come in.

`fresh`: without a row in place, no FAR that comes to decide on the frame or to lead it has DROP,
and none leads it away from the endpoint of the row.  `kept`: if neither the row in place nor the
request stops it, no such FAR has DROP, and each leads it where the row in place does or where the
request does in the end.  `freed`: if the row in place stops it, the request does not, and while a
FAR leads it away from the endpoint of the new row, that FAR or the one that decides on it has DROP.
`stopped`: if only the request stops it, the new row leads it where the row in place does, and the
same goes for a FAR that leads it elsewhere.  `stuck`: if the row in place stops it, the request
does not; else the request stops it, or no FAR that comes to decide or to lead has DROP. -/
structure Spares (e : Endian) (env : Env) (m : Maps) (x : Insertion) (fr : Frame) : Prop where
  fresh : fr.sendable e → m.serviceAt (.ofIp e x.ueIp) = none →
    x.NoDrop e env m fr ∧ x.LedTo e env m (· = x.endpoint e) fr
  kept : fr.sendable e → ∀ old ∈ m.serviceAt (.ofIp e x.ueIp), old.stops e fr = false →
    (x.service e (x.fars e env m)).stops e fr = false →
      x.NoDrop e env m fr ∧ x.LedTo e env m (fun ep => some ep = old.leads fr ∨
        some ep = (x.service e (x.fars e env m)).leads fr) fr
  freed : fr.sendable e → ∀ old ∈ m.serviceAt (.ofIp e x.ueIp), old.stops e fr = true →
    (x.service e (x.fars e env m)).stops e fr = false ∧
      x.LedOrDropped e env m (· = x.endpoint e) fr
  stopped : fr.sendable e → ∀ old ∈ m.serviceAt (.ofIp e x.ueIp), old.stops e fr = false →
    (x.service e (x.fars e env m)).stops e fr = true →
      x.LedOrDropped e env m (fun ep => some ep = old.leads fr) fr
  stuck : fr.sendable e = false →
    if (m.serviceAt (.ofIp e x.ueIp)).any (·.stops e fr) then
      (x.service e (x.fars e env m)).stops e fr = false
    else (x.service e (x.fars e env m)).stops e fr = true ∨ x.NoDrop e env m fr

/-- A frame of the UE does not notice how the rules come in. -/
def Unnoticed (e : Endian) (env : Env) (m : Maps) (x : Insertion) (fr : Frame) : Prop :=
  fr.key e = some (.ofIp e x.ueIp) → x.Spares e env m fr

end Insertion

/-- An accepted deletion. -/
structure Removal where
  seid : UInt64
  session : SessionData

namespace Removal

/-- What a deletion has collected when it starts to remove. -/
def deletion (e : Endian) (env : Env) (m : Maps) (x : Removal) : Deletion :=
  (Deletion.start e x.seid x.session).collect env m

/-- What keeps the rules of a session from showing as its PDRs go: for uplink packets that every
rule that drops one is backed, for downlink packets that no FAR of a core-side PDR drops and that
those that forward do so to where the row says. -/
def Spares (e : Endian) (m : Maps) (info : SessionInfo) : Frame → Prop
  | .n3 _ f => ∀ p ∈ parseUplink e f, Backed (rulesOf m info.seid) info p.tuple
  | .n6 x f => ∀ rule ∈ (serviceOf (rulesOf m info.seid) info).rules,
      rule.1.sourceInterface = ifaceCore → ∀ far ∈ rule.2, isDrop far = false ∧
        ((Frame.n6 x f).sendable e → isForw far → (far.gnbIp, far.teid) = (info.gnbIp, info.teid))

/-- The rules of the row in place spare a frame of the UE, or they drop it and, as its head cannot
be moved, it is passed without them. -/
def Unnoticed (e : Endian) (m : Maps) (x : Removal) (fr : Frame) : Prop :=
  fr.key e = some (.ofIp e x.session.ueIp) →
    ∀ info ∈ m.sessionMap.lookup (.ofIp e x.session.ueIp), info.seid = x.seid →
      Spares e m info fr ∨ fr.sendable e = false ∧
        (serviceOf (rulesOf m info.seid) info).stops e fr = true

end Removal

/-- What a handler does to the maps. -/
inductive Change where
  | insertion (x : Insertion)
  | removal (x : Removal)

namespace Change

def toInsertion : Change → Option Insertion
  | .insertion x => some x
  | .removal _ => none

/-- The steps the handler makes. -/
def steps (e : Endian) (env : Env) (m : Maps) : Change → List MapStep
  | .insertion x => MapStep.performed m (x.steps e env)
  | .removal x => MapStep.ofDeletion (x.deletion e env m)

def Unnoticed (e : Endian) (env : Env) (m : Maps) (fr : Frame) : Change → Prop
  | .insertion x => x.Unnoticed e env m fr
  | .removal x => x.Unnoticed e m fr

end Change

namespace Audit

/-- The change a datagram is handled for. -/
def change (env : Env) (data : Bytes) (src : SocketAddr) (a : Audit) : Option Change :=
  match establishes env data src a.world with
  | some (req, _) =>
    (req.createPdrs.findSome? (·.ueIp)).bind fun ueIp =>
      (req.createFars.findSome? (·.outerHeaderCreation)).map fun gnbInfo =>
        .insertion ⟨a.srv.n3Addr, a.srv.nextSeid, a.srv.nextTeid, ueIp, gnbInfo, req⟩
  | none =>
    (deletes env data src a.world).map fun d => .removal ⟨d.1, d.2.1⟩

/-- The steps of a datagram on the maps, if it is an establishment or a deletion. -/
def mapSteps (host : Host) (env : Env) (data : Bytes) (src : SocketAddr) (a : Audit) :
    List MapStep :=
  ((a.change env (received data) src).map (·.steps host.endian env a.maps)).getD []

/-- Whatever part of the steps has been made, the frame gets the verdict it got before the datagram
or the one it gets after it. -/
def Atomic (host : Host) (env : Env) (now : Instant) (data : Bytes) (src : SocketAddr) (a : Audit)
    (fr : Frame) : Prop :=
  ∀ done, done <+: a.mapSteps host env data src →
    fr.verdict host.endian (MapStep.applyAll a.maps done) = fr.verdict host.endian a.maps ∨
      fr.verdict host.endian (MapStep.applyAll a.maps done) =
        fr.verdict host.endian (a.step host (.datagram env now data src)).maps

/-- The frame does not notice the change of a datagram, if it has one. -/
def Unnoticed (host : Host) (env : Env) (data : Bytes) (src : SocketAddr) (a : Audit) (fr : Frame) :
    Prop :=
  ∀ c ∈ a.change env (received data) src, c.Unnoticed host.endian env a.maps fr

section Steps

variable {host : Host} {env : Env} {now : Instant} {data : Bytes} {src : SocketAddr} {a : Audit}

theorem change_insertion {x : Insertion} (h : a.change env data src = some (.insertion x)) :
    ∃ assoc, establishes env data src a.world = some (x.req, assoc) ∧
      x.req.createPdrs.findSome? (·.ueIp) = some x.ueIp ∧
      x.req.createFars.findSome? (·.outerHeaderCreation) = some x.gnbInfo ∧
      x = ⟨a.srv.n3Addr, a.srv.nextSeid, a.srv.nextTeid, x.ueIp, x.gnbInfo, x.req⟩ := by
  unfold change at h
  split at h
  · next req assoc hest =>
    obtain ⟨ueIp, hue, h⟩ := Option.bind_eq_some_iff.mp h
    obtain ⟨gnbInfo, hgnb, h⟩ := Option.map_eq_some_iff.mp h
    obtain rfl := Change.insertion.inj h
    exact ⟨assoc, hest, hue, hgnb, rfl⟩
  · obtain ⟨_, -, h⟩ := Option.map_eq_some_iff.mp h
    cases h

theorem change_removal {x : Removal} (h : a.change env data src = some (.removal x)) :
    ∃ assoc, deletes env data src a.world = some (x.seid, x.session, assoc) := by
  unfold change at h
  split at h
  · obtain ⟨_, -, h⟩ := Option.bind_eq_some_iff.mp h
    obtain ⟨_, -, h⟩ := Option.map_eq_some_iff.mp h
    cases h
  · obtain ⟨⟨seid, session, assoc⟩, hdel, h⟩ := Option.map_eq_some_iff.mp h
    obtain rfl := Change.removal.inj h
    exact ⟨assoc, hdel⟩

/-- The inserts of an establishment, as it makes them. -/
theorem insertion_maps {x : Insertion}
    (h : a.change env (received data) src = some (.insertion x)) :
    MapStep.applyAll a.maps (MapStep.performed a.maps (x.steps host.endian env)) =
      (a.step host (.datagram env now data src)).maps := by
  obtain ⟨assoc, hest, hue, hgnb, hx⟩ := change_insertion h
  have hinstall : ∀ {ok : Bool} {w' : World}, install (installSteps host.endian env a.srv.n3Addr
      a.srv.nextSeid a.srv.nextTeid x.ueIp x.gnbInfo x.req) (allocated (touched now a.world)) =
        (ok, w') →
      MapStep.applyAll a.maps (MapStep.performed a.maps (x.steps host.endian env)) = w'.maps := by
    intro ok w' hinst
    have hmaps := MapStep.install_maps (installSteps host.endian env a.srv.n3Addr a.srv.nextSeid
      a.srv.nextTeid x.ueIp x.gnbInfo x.req) (allocated (touched now a.world))
    rw [hinst] at hmaps
    rw [hx]
    exact hmaps.symm
  have hmove := a.step_move host (.datagram env now data src)
  generalize a.step host (.datagram env now data src) = a' at hmove ⊢
  cases hmove with
  | steady hw ho hl hnone =>
    cases hest.symm.trans (hnone env now data src rfl)
  | heartbeat recvTs hhb hnone hw ho hl | setup req hset hnone hw ho hl
  | deleted seid session assoc hnone hdel hw ho hl =>
    cases hest.symm.trans hnone
  | refused req assoc' hest' hnone hw ho hl =>
    obtain ⟨rfl, rfl⟩ := Prod.mk.inj (Option.some.inj (hest.symm.trans hest'))
    rw [hue, hgnb] at hnone
    rcases hnone with hnone | hnone <;> cases hnone
  | interrupted req assoc' ueIp gnbInfo hest' hue' hgnb' hinst ho hl =>
    obtain ⟨rfl, rfl⟩ := Prod.mk.inj (Option.some.inj (hest.symm.trans hest'))
    obtain rfl := Option.some.inj (hue.symm.trans hue')
    obtain rfl := Option.some.inj (hgnb.symm.trans hgnb')
    exact hinstall hinst
  | established req assoc' ueIp gnbInfo w' hest' hue' hgnb' hinst hw ho hl =>
    obtain ⟨rfl, rfl⟩ := Prod.mk.inj (Option.some.inj (hest.symm.trans hest'))
    obtain rfl := Option.some.inj (hue.symm.trans hue')
    obtain rfl := Option.some.inj (hgnb.symm.trans hgnb')
    exact (hinstall hinst).trans (congrArg World.maps hw).symm

/-- **The steps are the handler's**: after all of them the maps are those the datagram leaves. -/
theorem change_maps {c : Change} (h : a.change env (received data) src = some c) :
    MapStep.applyAll a.maps (c.steps host.endian env a.maps) =
      (a.step host (.datagram env now data src)).maps := by
  cases c with
  | insertion x => exact insertion_maps h
  | removal x =>
    obtain ⟨assoc, hdel⟩ := change_removal h
    have hmaps := congrArg World.maps (step_of_deletes host now hdel).1
    exact (MapStep.applyAll_ofDeletion _ _).trans hmaps.symm

end Steps

end Audit

/-! ### Establishment -/

section Establishment

variable {e : Endian} {env : Env} {n3Addr : Ipv4Addr} {seid : UInt64} {teid : UInt32}
  {ueIp : Ipv4Addr} {gnbInfo : OuterHeaderCreation} {req : SessionEstablishmentReq} {fr : Frame}
  {m : Maps}

theorem view_pdrs {k : SessionKey} (pdrs : List ParsedPDR) (v : View) :
    ((pdrs.map fun pdr => InstallStep.pdr (.new seid pdr.pdrId.toUInt32) (pdrValue e ueIp pdr)).map
        MapStep.ofInstall).foldl (MapStep.effect k seid) v =
      { v with rules := addPdrs e ueIp v.rules pdrs } := by
  induction pdrs generalizing v with
  | nil => rfl
  | cons pdr pdrs ih =>
    rw [List.map_cons, List.map_cons, List.foldl_cons, ih]
    simp only [MapStep.ofInstall, MapStep.effect, addPdrs, List.foldl_cons, Rules.addPdr,
      PdrKey.new, PdrKey.mk.injEq, composeKey_eq_iff]

theorem view_fars {k : SessionKey} (fars : List ParsedFAR) (v : View) :
    ((fars.map fun far => InstallStep.far (.new seid far.farId) (farValue e n3Addr far)).map
        MapStep.ofInstall).foldl (MapStep.effect k seid) v =
      { v with rules := addFars e n3Addr v.rules fars } := by
  induction fars generalizing v with
  | nil => rfl
  | cons far fars ih =>
    rw [List.map_cons, List.map_cons, List.foldl_cons, ih]
    simp only [MapStep.ofInstall, MapStep.effect, addFars, List.foldl_cons, Rules.addFar,
      FarKey.new, FarKey.mk.injEq, composeKey_eq_iff]

/-- The view of the new session after some of the inserts. -/
theorem view_install (row : Option SessionInfo) (i : ℕ) :
    (((installSteps e env n3Addr seid teid ueIp gnbInfo req).map MapStep.ofInstall).take
        (i + 1)).foldl (MapStep.effect (.ofIp e ueIp) seid) ⟨row, .empty⟩ =
      ⟨some (sessionInfo e n3Addr seid teid gnbInfo req.createPdrs),
        requested e n3Addr ueIp (req.createPdrs.take i)
          (req.createFars.take (i - req.createPdrs.length))⟩ := by
  have hurrs : ∀ (n : ℕ) (v : View), (((req.createUrrs.zipIdx.map fun p => InstallStep.urr
      (.new seid p.1.urrId) (urrConfig seid req.cpSeid (env.now p.2) p.1)).map
        MapStep.ofInstall).take n).foldl (MapStep.effect (.ofIp e ueIp) seid) v = v := by
    intro n v
    refine foldl_effect id (fun s hs v => ?_) v
    obtain ⟨t, ht, rfl⟩ := List.mem_map.mp (List.mem_of_mem_take hs)
    obtain ⟨_, -, rfl⟩ := List.mem_map.mp ht
    rfl
  have hrow : MapStep.effect (.ofIp e ueIp) seid ⟨row, .empty⟩ (MapStep.ofInstall (.session
      (.ofIp e ueIp) (sessionInfo e n3Addr seid teid gnbInfo req.createPdrs))) =
      ⟨some (sessionInfo e n3Addr seid teid gnbInfo req.createPdrs), .empty⟩ := by
    simp only [MapStep.ofInstall, MapStep.effect, if_true]
  rw [installSteps, List.map_cons, List.take_succ_cons, List.foldl_cons, hrow, List.map_append,
    List.map_append, List.take_append, List.take_append, List.foldl_append, List.foldl_append,
    hurrs, List.length_map, List.length_map, ← List.map_take, ← List.map_take, ← List.map_take,
    ← List.map_take, view_pdrs, view_fars]
  rfl

end Establishment

namespace Insertion

variable {e : Endian} {env : Env} {x : Insertion} {fr : Frame} {m : Maps} {done : List MapStep}

theorem steps_for {s : MapStep} (h : s ∈ x.steps e env) : s.For x.seid (.ofIp e x.ueIp) := by
  obtain ⟨t, ht, rfl⟩ := List.mem_map.mp h
  have hfor := installSteps_for ht
  cases t with
  | session | urr => exact hfor.1
  | pdr | far => exact hfor

/-- What a frame of the UE gets once the row is in. -/
theorem verdict_done (hrules : rulesOf m x.seid = .empty) (hk : fr.key e = some (.ofIp e x.ueIp))
    (hdone : done <+: MapStep.performed m (x.steps e env)) (hne : done ≠ []) :
    fr.verdict e (MapStep.applyAll m done) =
      (x.service e (x.req.createFars.take
        (done.length - 1 - x.req.createPdrs.length))).verdict e fr := by
  obtain ⟨i, hi⟩ : ∃ i, done.length = i + 1 :=
    Nat.exists_eq_succ_of_ne_zero (List.length_pos_iff.mpr hne).ne'
  have hpart : done = (x.steps e env).take (i + 1) := by
    rw [← hi]
    exact List.prefix_iff_eq_take.mp (hdone.trans (MapStep.performed_isPrefix _ _))
  have hview : view (MapStep.applyAll m done) (.ofIp e x.ueIp) x.seid =
      ⟨some (x.row e), requested e x.n3Addr x.ueIp (x.req.createPdrs.take i)
        (x.req.createFars.take (i - x.req.createPdrs.length))⟩ := by
    rw [view_applyAll done m (MapStep.performed_of_isPrefix _ _ hdone), hpart, view, hrules]
    exact view_install _ i
  have hrow : (MapStep.applyAll m done).sessionMap.lookup (.ofIp e x.ueIp) = some (x.row e) :=
    congrArg View.row hview
  have hseid : ∀ info, (MapStep.applyAll m done).sessionMap.lookup (.ofIp e x.ueIp) = some info →
      info.seid = x.seid := by
    intro info hinfo
    rw [← Option.some.inj (hrow.symm.trans hinfo)]
    rfl
  rw [verdict_of_view hk hseid, hview, hi, Nat.add_sub_cancel, ← Service.render_ruling _ hk,
    service, ← serviceOf_requested e x.n3Addr x.ueIp x.seid, ← ruling_serviceOf]
  refine congrArg (fr.render e) ?_
  by_cases hlen : x.req.createPdrs.length ≤ i
  · rw [List.take_of_length_le hlen]
    rfl
  · -- no FAR before the last PDR, so it makes no difference how many PDRs there are
    rw [Nat.sub_eq_zero_of_le (Nat.le_of_not_le hlen), List.take_zero]
    exact Frame.ruling_of_unusable (unusable_requested e x.n3Addr x.ueIp _ _)
      (unusable_requested e x.n3Addr x.ueIp _ _) fr

/-- Frames of other UEs get what they got. -/
theorem verdict_other (hseid : x.seid.toNat < 2 ^ 48)
    (hrows : ∀ k info, m.sessionMap.lookup k = some info →
      info.seid.toNat < 2 ^ 48 ∧ info.seid ≠ x.seid)
    (hk : fr.key e ≠ some (.ofIp e x.ueIp))
    (hdone : done <+: MapStep.performed m (x.steps e env)) :
    fr.verdict e (MapStep.applyAll m done) = fr.verdict e m := by
  have hfor : ∀ s ∈ done, s.For x.seid (.ofIp e x.ueIp) :=
    fun s hs => steps_for ((hdone.trans (MapStep.performed_isPrefix _ _)).subset hs)
  refine verdict_applyAll (MapStep.performed_of_isPrefix _ _ hdone) (fun k hk' s hs seid v => ?_)
    fun k info hk' hinfo s hs v => ?_
  · exact (hfor s hs).row (fun heq => hk (by rw [hk', heq])) v
  · exact (hfor s hs).rules hseid (hrows k info hinfo).1 (hrows k info hinfo).2 v

/-- A frame of the UE meets each service on the way after some number of inserts, and no other. -/
theorem verdicts_iff (hrules : rulesOf m x.seid = .empty) (hk : fr.key e = some (.ofIp e x.ueIp))
    {P : Verdict → Prop} (hP : P (fr.verdict e m)) :
    (∀ done, done <+: MapStep.performed m (x.steps e env) →
        P (fr.verdict e (MapStep.applyAll m done))) ↔
      MapStep.performed m (x.steps e env) = [] ∨ ∀ s ∈ x.way e env m, P (s.verdict e fr) := by
  constructor
  · intro h
    refine or_iff_not_imp_left.mpr fun hsome s hs => ?_
    obtain ⟨part, hpart, rfl⟩ := List.mem_map.mp hs
    have hpre : part <+: x.fars e env m := (List.mem_inits ..).mp hpart
    have hlen : part.length ≤ (MapStep.performed m (x.steps e env)).length - 1 -
        x.req.createPdrs.length := hpre.length_le.trans (List.length_take_le _ _)
    have hpart' : part = x.req.createFars.take part.length :=
      List.prefix_iff_eq_take.mp (hpre.trans <| List.take_prefix _ _)
    have hpos := List.length_pos_iff.mpr hsome
    -- the point right after the last FAR of `part`, or after the row when there is none
    rcases Nat.eq_zero_or_pos part.length with hzero | hpos'
    · have hdone := List.take_prefix 1 (MapStep.performed m (x.steps e env))
      have hpoint := h _ hdone
      have hlength : ((MapStep.performed m (x.steps e env)).take 1).length = 1 := by
        rw [List.length_take]
        omega
      rw [verdict_done hrules hk hdone (List.ne_nil_of_length_eq_add_one hlength), hlength,
        Nat.sub_self, Nat.zero_sub, List.take_zero] at hpoint
      rwa [List.length_eq_zero_iff.mp hzero]
    · have hdone := List.take_prefix (part.length + x.req.createPdrs.length + 1)
        (MapStep.performed m (x.steps e env))
      have hlength : ((MapStep.performed m (x.steps e env)).take
          (part.length + x.req.createPdrs.length + 1)).length =
            part.length + x.req.createPdrs.length + 1 := by
        rw [List.length_take]
        omega
      have hpoint := h _ hdone
      rw [verdict_done hrules hk hdone (List.ne_nil_of_length_eq_add_one hlength), hlength,
        Nat.add_sub_cancel, Nat.add_sub_cancel, ← hpart'] at hpoint
      exact hpoint
  · rintro h done hdone
    by_cases hne : done = []
    · rw [hne]
      exact hP
    · have hsome : MapStep.performed m (x.steps e env) ≠ [] :=
        fun hnil => hne (List.prefix_nil.mp (hnil ▸ hdone))
      rw [verdict_done hrules hk hdone hne]
      refine h.resolve_left hsome _ (List.mem_map_of_mem ((List.mem_inits ..).mpr ?_))
      refine List.take_prefix_take_left ?_
      have := hdone.length_le
      omega

/-- Without FARs nothing stops a frame. -/
theorem stops_service_nil : (x.service e []).stops e fr = false := by
  have hrules : serviceOf (requested e x.n3Addr x.ueIp x.req.createPdrs []) (x.row e) =
      x.service e [] := serviceOf_requested ..
  rw [← hrules]
  exact stops_of_unusable (unusable_requested e x.n3Addr x.ueIp x.req.createPdrs _) e fr

theorem rules_service (e : Endian) (x : Insertion) (part : List ParsedFAR) :
    (x.service e part).rules = (x.pdrs e).map fun pdr =>
      (pdr, (farOf part pdr).map (farValue e x.n3Addr)) := rules_requested ..

theorem mem_way {s : Service} :
    s ∈ x.way e env m ↔ ∃ part, part <+: x.fars e env m ∧ x.service e part = s := by
  simp only [way, List.mem_map, List.mem_inits]

/-- Nothing on the way stops a frame exactly when no FAR that comes to decide or to lead drops. -/
theorem noDrop_iff {k : SessionKey} (hk : fr.key e = some k) :
    (∀ s ∈ x.way e env m, s.stops e fr = false) ↔ x.NoDrop e env m fr := by
  simp only [mem_way, forall_exists_index, and_imp, forall_apply_eq_imp_iff₂, NoDrop]
  cases fr with
  | n3 y f =>
    obtain ⟨p, hp, -⟩ := Option.map_eq_some_iff.mp hk
    simp only [Service.stops, hp, Option.any_some, Decides, Leads, or_false, Option.mem_def,
      Option.some.injEq, exists_eq_left']
    exact forall_drops_iff (x.rules_service e) _ ifaceAccess p.tuple
  | n6 y f =>
    obtain ⟨t, ht, -⟩ := Option.map_eq_some_iff.mp hk
    simp only [Service.stops, ht, Option.any_some, Decides, Leads, Option.mem_def,
      Option.some.injEq, exists_eq_left', Bool.or_eq_false_iff, or_imp, forall_and]
    refine and_congr (forall_drops_iff (x.rules_service e) _ ifaceCore t) ?_
    refine Iff.trans ?_ (forall_coreFar_iff (x.rules_service e) _ fun v => isDrop v = false)
    refine forall₂_congr fun part _ => ?_
    cases (x.service e part).coreFar <;> simp

theorem coreFar_service_nil : (x.service e []).coreFar = none := by
  rw [Option.eq_none_iff_forall_ne_some]
  intro v hv
  obtain ⟨far, ⟨_, _, _, _, _, hfar, _⟩, -⟩ :=
    (Service.coreFar_eq_some_iff (x.rules_service e []) v).mp hv
  cases hfar

/-- Where a frame on N6 is led when some FARs are in place. -/
theorem leads_service (part : List ParsedFAR) (y : XdpEnv) (f : Bytes) :
    (x.service e part).leads (.n6 y f) = some (match (x.service e part).coreFar with
      | none => x.endpoint e
      | some v => if isForw v then (v.gnbIp, v.teid) else x.endpoint e) := by
  have hend : (x.service e part).endpoint = x.endpoint e := rfl
  rw [Service.leads, hend]
  cases (x.service e part).coreFar with
  | none => rfl
  | some v => cases hforw : isForw v <;> simp [hforw, Option.filter]

/-- What stops a frame on N6 when some FARs are in place. -/
theorem stops_service_iff (part : List ParsedFAR) {y : XdpEnv} {f : Bytes} {t : FiveTuple}
    (ht : parseDownlink e f = some t) : (x.service e part).stops e (.n6 y f) = true ↔
      (∃ far, Latest (x.Decides e · · (.n6 y f)) part far ∧
          isDrop (farValue e x.n3Addr far) = true) ∨
        ∃ far, Latest (x.Leads e · · (.n6 y f)) part far ∧
          isDrop (farValue e x.n3Addr far) = true := by
  simp only [Service.stops, ht, Option.any_some, Bool.or_eq_true, Decides, Leads, Option.mem_def,
    Option.some.injEq, exists_eq_left']
  refine or_congr (Service.drops_iff_latest (x.rules_service e part) ifaceCore t) ?_
  rw [Option.any_eq_true]
  simp only [Service.coreFar_eq_some_iff_latest (x.rules_service e part)]
  constructor
  · rintro ⟨_, ⟨far, hfar, rfl⟩, hdrop⟩
    exact ⟨far, hfar, hdrop⟩
  · rintro ⟨far, hfar, hdrop⟩
    exact ⟨_, ⟨far, hfar, rfl⟩, hdrop⟩

/-- Where the frame is led on the way. -/
theorem ledTo_iff (P : UInt32 × UInt32 → Prop) :
    (∀ s ∈ x.way e env m, ∀ ep, s.leads fr = some ep → P ep) ↔ x.LedTo e env m P fr := by
  simp only [mem_way, forall_exists_index, and_imp, forall_apply_eq_imp_iff₂, LedTo]
  cases fr with
  | n3 y f => simp [Service.leads]
  | n6 y f =>
    have hcore := forall_coreFar_iff (x.rules_service e) (x.fars e env m) fun v =>
      P (if isForw v then (v.gnbIp, v.teid) else x.endpoint e)
    simp only [leads_service, Option.some.injEq, forall_eq']
    constructor
    · intro h
      refine ⟨?_, hcore.mp fun part hpart v hv => ?_⟩
      · have hnil := h [] List.nil_prefix
        rwa [coreFar_service_nil] at hnil
      · have hpoint := h part hpart
        rwa [hv] at hpoint
    · rintro ⟨hown, hall⟩ part hpart
      cases hv : (x.service e part).coreFar with
      | none => exact hown
      | some v => exact hcore.mpr hall part hpart v hv

/-- Where the frame is led on the way as long as nothing stops it. -/
theorem ledOrDropped_iff {k : SessionKey} (hk : fr.key e = some k) (P : UInt32 × UInt32 → Prop) :
    (∀ s ∈ x.way e env m, s.stops e fr = true ∨ ∀ ep, s.leads fr = some ep → P ep) ↔
      x.LedOrDropped e env m P fr := by
  simp only [mem_way, forall_exists_index, and_imp, forall_apply_eq_imp_iff₂, LedOrDropped]
  cases fr with
  | n3 y f => simp [Service.leads]
  | n6 y f =>
    obtain ⟨t, ht, -⟩ := Option.map_eq_some_iff.mp hk
    have hcore : ∀ part v, (x.service e part).coreFar = some v ↔
        ∃ led, Latest (x.Leads e · · (.n6 y f)) part led ∧ farValue e x.n3Addr led = v :=
      fun part v => Service.coreFar_eq_some_iff_latest (x.rules_service e part) v
    simp only [leads_service, Option.some.injEq, forall_eq']
    constructor
    · intro h
      refine ⟨?_, fun part hpart led hled hnot => ?_⟩
      · have hnil := (h [] List.nil_prefix).resolve_left (by simp [stops_service_nil])
        rwa [coreFar_service_nil] at hnil
      · rcases h part hpart with hstops | hlead
        · rcases (stops_service_iff part ht).mp hstops with hdrop | ⟨led', hled', hdrop⟩
          · exact .inr hdrop
          · rw [hled'.unique hled] at hdrop
            exact .inl hdrop
        · rw [(hcore part _).mpr ⟨led, hled, rfl⟩] at hlead
          exact absurd hlead hnot
    · rintro ⟨hown, hall⟩ part hpart
      cases hv : (x.service e part).coreFar with
      | none => exact .inr hown
      | some v =>
        obtain ⟨led, hled, rfl⟩ := (hcore part v).mp hv
        refine or_iff_not_imp_right.mpr fun hnot => (stops_service_iff part ht).mpr ?_
        rcases hall part hpart led hled hnot with hdrop | hdrop
        · exact .inr ⟨led, hled, hdrop⟩
        · exact .inl hdrop

/-- What the inserts do to a frame of the UE, FAR by FAR. -/
theorem spares_iff (hk : fr.key e = some (.ofIp e x.ueIp)) :
    Service.Unnoticed e (m.serviceAt (.ofIp e x.ueIp)) (x.way e env m) (x.service e [])
      (x.service e (x.fars e env m)) fr ↔ x.Spares e env m fr := by
  have hown : (∀ s ∈ x.way e env m, s.leads fr = (x.service e []).leads fr) ↔
      x.LedTo e env m (· = x.endpoint e) fr := by
    rw [← ledTo_iff]
    refine forall₂_congr fun s _ => ?_
    cases fr with
    | n3 y f => simp [Service.leads]
    | n6 y f =>
      rw [leads_service, coreFar_service_nil]
      simp [Service.leads]
  have hfreed : (∀ s ∈ x.way e env m, s.stops e fr = true ∨
      s.leads fr = (x.service e []).leads fr) ↔
      x.LedOrDropped e env m (· = x.endpoint e) fr := by
    rw [← ledOrDropped_iff hk]
    refine forall₂_congr fun s _ => or_congr_right ?_
    cases fr with
    | n3 y f => simp [Service.leads]
    | n6 y f =>
      rw [leads_service, coreFar_service_nil]
      simp [Service.leads]
  have hstopped : ∀ old : Service, (∀ s ∈ x.way e env m, s.stops e fr = true ∨
      s.leads fr = old.leads fr) ↔
      x.LedOrDropped e env m (fun ep => some ep = old.leads fr) fr := by
    intro old
    rw [← ledOrDropped_iff hk]
    refine forall₂_congr fun s _ => or_congr_right ?_
    cases fr <;> simp [Service.leads]
  have hboth : ∀ old : Service, (∀ s ∈ x.way e env m, s.leads fr = old.leads fr ∨
      s.leads fr = (x.service e (x.fars e env m)).leads fr) ↔
      x.LedTo e env m (fun ep => some ep = old.leads fr ∨
        some ep = (x.service e (x.fars e env m)).leads fr) fr := by
    intro old
    rw [← ledTo_iff]
    refine forall₂_congr fun s _ => ?_
    cases fr <;> simp [Service.leads]
  unfold Service.Unnoticed
  cases hsend : fr.sendable e with
  | false =>
    rw [if_neg Bool.false_ne_true, noDrop_iff hk]
    constructor
    · intro h
      exact ⟨by simp [hsend], by simp [hsend], by simp [hsend], by simp [hsend], fun _ => h⟩
    · exact fun h => h.stuck hsend
  | true =>
    rw [if_pos rfl]
    cases hold : m.serviceAt (.ofIp e x.ueIp) with
    | none =>
      simp only [forall_and, noDrop_iff hk, hown]
      constructor
      · intro h
        exact ⟨fun _ _ => h, by simp [hold], by simp [hold], by simp [hold], by simp [hsend]⟩
      · exact fun h => h.fresh hsend hold
    | some old =>
      simp only [forall_and, noDrop_iff hk, hboth, hfreed, hstopped]
      constructor
      · intro h
        refine ⟨by simp [hold], fun _ old' hold' hnot hnew => ?_, fun _ old' hold' hstops => ?_,
          fun _ old' hold' hnot hnew => ?_, by simp [hsend]⟩
        all_goals obtain rfl := Option.some.inj (hold.symm.trans hold')
        · rwa [if_neg (by simp [hnot]), if_neg (by simp [hnew])] at h
        · rwa [if_pos hstops] at h
        · rwa [if_neg (by simp [hnot]), if_pos hnew] at h
      · intro h
        split_ifs with hstops hnew
        · exact h.freed hsend old hold hstops
        · exact h.stopped hsend old hold (Bool.eq_false_of_not_eq_true hstops) hnew
        · exact h.kept hsend old hold (Bool.eq_false_of_not_eq_true hstops)
            (Bool.eq_false_of_not_eq_true hnew)

instance (x : Insertion) (e : Endian) (env : Env) (m : Maps) (fr : Frame) :
    Decidable (x.Unnoticed e env m fr) :=
  if hk : fr.key e = some (.ofIp e x.ueIp) then
    decidable_of_iff _ ((spares_iff hk).trans ⟨fun h _ => h, fun h => h hk⟩)
  else isTrue fun hk' => absurd hk' hk

/-- **The inserts are atomic for a frame exactly when it does not notice them.** -/
theorem atomic_iff (hseid : x.seid.toNat < 2 ^ 48) (hrules : rulesOf m x.seid = .empty)
    (hrows : ∀ k info, m.sessionMap.lookup k = some info →
      info.seid.toNat < 2 ^ 48 ∧ info.seid ≠ x.seid) :
    (∀ done, done <+: MapStep.performed m (x.steps e env) →
      fr.verdict e (MapStep.applyAll m done) = fr.verdict e m ∨
        fr.verdict e (MapStep.applyAll m done) =
          fr.verdict e (MapStep.applyAll m (MapStep.performed m (x.steps e env)))) ↔
      x.Unnoticed e env m fr := by
  by_cases hk : fr.key e = some (.ofIp e x.ueIp)
  · have hway : ∀ {fars}, fars <+: x.fars e env m → x.service e fars ∈ x.way e env m :=
      fun hpre => List.mem_map_of_mem ((List.mem_inits ..).mpr hpre)
    have hnone : (x.service e []).stops e fr = false := stops_service_nil
    have hiff := Service.unnoticed_iff (m.serviceAt (.ofIp e x.ueIp)) (hway List.nil_prefix)
      (hway List.prefix_rfl) hnone
    rw [← Service.verdict_serviceAt hk] at hiff
    refine Iff.trans ?_ (hiff.trans ((spares_iff hk).trans ⟨fun h _ => h, fun h => h hk⟩))
    by_cases hnil : MapStep.performed m (x.steps e env) = []
    · -- there is no room for the row, so nothing changes
      have hfars : x.fars e env m = [] := by
        rw [fars, hnil]
        simp
      rw [hnil]
      refine iff_of_true (fun done hdone => ?_) fun s hs => ?_
      · rw [List.prefix_nil.mp hdone]
        exact .inr rfl
      · rw [way, hfars] at hs
        rw [List.mem_singleton.mp hs, hfars]
        exact .inr rfl
    · have hlast := verdict_done hrules hk List.prefix_rfl hnil
      refine (verdicts_iff (P := fun v => v = fr.verdict e m ∨ v = _) hrules hk (.inl rfl)).trans ?_
      rw [hlast]
      exact or_iff_right hnil
  · exact ⟨fun _ hk' => absurd hk' hk,
      fun _ done hdone => .inl (verdict_other hseid hrows hk hdone)⟩

end Insertion

/-! ### Deletion -/

namespace Removal

variable {e : Endian} {env : Env} {x : Removal} {fr : Frame} {m : Maps} {done : List MapStep}

/-- The removals before that of the row. -/
def ruleSteps (e : Endian) (env : Env) (m : Maps) (x : Removal) : List MapStep :=
  (x.deletion e env m).pdrIds.map (fun id => .removePdr (.new x.seid id)) ++
    ((x.deletion e env m).farIds.map (fun id => .removeFar (.new x.seid id)) ++
      (x.deletion e env m).urrIds.map fun id => .removeUrr (.new x.seid id))

theorem ofDeletion_eq (e : Endian) (env : Env) (m : Maps) (x : Removal) :
    MapStep.ofDeletion (x.deletion e env m) =
      x.ruleSteps e env m ++ [.removeSession (.ofIp e x.session.ueIp)] := by
  rw [ruleSteps, ← List.append_assoc]
  rfl

theorem ruleSteps_isPrefix : x.ruleSteps e env m <+: MapStep.ofDeletion (x.deletion e env m) := by
  rw [ofDeletion_eq]
  exact List.prefix_append _ _

theorem ruleSteps_for {s : MapStep} (h : s ∈ x.ruleSteps e env m) :
    s.For x.seid (.ofIp e x.session.ueIp) := by
  simp only [ruleSteps, List.mem_append, List.mem_map] at h
  rcases h with ⟨id, -, rfl⟩ | ⟨id, -, rfl⟩ | ⟨id, -, rfl⟩ <;> exact ⟨id, rfl⟩

theorem ruleSteps_row {s : MapStep} (h : s ∈ x.ruleSteps e env m) (k : SessionKey) (t : UInt64)
    (v : View) : (s.effect k t v).row = v.row := by
  simp only [ruleSteps, List.mem_append, List.mem_map] at h
  rcases h with ⟨id, -, rfl⟩ | ⟨id, -, rfl⟩ | ⟨id, -, rfl⟩ <;> rfl

theorem performed_of_isPrefix (h : done <+: MapStep.ofDeletion (x.deletion e env m)) :
    MapStep.performed m done = done := by
  rw [← MapStep.performed_ofDeletion _ m] at h
  exact MapStep.performed_of_isPrefix _ _ h

theorem view_removePdrs {k : SessionKey} {seid : UInt64} (ids : List UInt32) (v : View) :
    (ids.map fun id => MapStep.removePdr (.new seid id)).foldl (MapStep.effect k seid) v =
      { v with rules := dropPdrs v.rules ids } := by
  induction ids generalizing v with
  | nil => rfl
  | cons id ids ih =>
    rw [List.map_cons, List.foldl_cons, ih]
    simp only [MapStep.effect, dropPdrs, List.foldl_cons, Rules.dropPdr, PdrKey.new,
      PdrKey.mk.injEq, composeKey_eq_iff]

/-- Without the PDRs a row lists none of its rules can be used. -/
theorem unusable_of_dropped {r r' : Rules} {info : SessionInfo}
    (h : r'.pdr = (dropPdrs r info.listed).pdr) : r'.Unusable info := by
  intro id hid
  rw [h, pdr_dropPdrs, if_pos ⟨id, hid, rfl⟩]
  rfl

section Row

variable {info : SessionInfo}

theorem pdrIds_deletion (hinfo : m.sessionMap.lookup (.ofIp e x.session.ueIp) = some info) :
    (x.deletion e env m).pdrIds = info.listed := by
  change ((m.sessionMap.lookup (.ofIp e x.session.ueIp)).map (·.listed)).getD [] = _
  rw [hinfo]
  rfl

/-- The row stays while the rules go, so a frame of the UE gets what the rules in its view say. -/
theorem verdict_rules (hk : fr.key e = some (.ofIp e x.session.ueIp))
    (hinfo : m.sessionMap.lookup (.ofIp e x.session.ueIp) = some info) (hseid : info.seid = x.seid)
    (hdone : done <+: x.ruleSteps e env m) :
    fr.verdict e (MapStep.applyAll m done) = fr.render e (fr.ruling e
      (done.foldl (MapStep.effect (.ofIp e x.session.ueIp) x.seid)
        (view m (.ofIp e x.session.ueIp) x.seid)).rules info) := by
  have hperf : MapStep.performed m done = done :=
    performed_of_isPrefix (hdone.trans ruleSteps_isPrefix)
  have hrow : (view (MapStep.applyAll m done) (.ofIp e x.session.ueIp) x.seid).row = some info := by
    rw [view_applyAll done m hperf, foldl_effect View.row fun s hs v =>
      ruleSteps_row (hdone.subset hs) _ _ v]
    exact hinfo
  have hseid' : ∀ info', (MapStep.applyAll m done).sessionMap.lookup (.ofIp e x.session.ueIp) =
      some info' → info'.seid = x.seid := by
    intro info' hinfo'
    have heq : info = info' := Option.some.inj (hrow.symm.trans hinfo')
    rw [← heq, hseid]
  rw [verdict_of_view hk hseid', hrow, view_applyAll done m hperf]

theorem verdict_dropped (hk : fr.key e = some (.ofIp e x.session.ueIp))
    (hinfo : m.sessionMap.lookup (.ofIp e x.session.ueIp) = some info) (hseid : info.seid = x.seid)
    {gone : List UInt32}
    (hdone : gone.map (fun id => MapStep.removePdr (.new x.seid id)) <+: x.ruleSteps e env m) :
    fr.verdict e (MapStep.applyAll m (gone.map fun id => MapStep.removePdr (.new x.seid id))) =
      fr.render e (fr.ruling e (dropPdrs (rulesOf m x.seid) gone) info) := by
  rw [verdict_rules hk hinfo hseid hdone, view_removePdrs]
  rfl

/-- What a frame of the UE gets while the rules go: that of the row without some of its PDRs. -/
theorem verdict_done (hk : fr.key e = some (.ofIp e x.session.ueIp))
    (hinfo : m.sessionMap.lookup (.ofIp e x.session.ueIp) = some info) (hseid : info.seid = x.seid)
    (hdone : done <+: x.ruleSteps e env m) :
    ∃ gone ∈ info.listed.inits, fr.verdict e (MapStep.applyAll m done) =
      fr.render e (fr.ruling e (dropPdrs (rulesOf m x.seid) gone) info) := by
  have hids : (x.deletion e env m).pdrIds = info.listed := pdrIds_deletion hinfo
  rcases List.prefix_or_prefix_of_prefix hdone (List.prefix_append _ _) with hpre | ⟨rest, rfl⟩
  · obtain ⟨gone, hgone, rfl⟩ : ∃ gone, gone <+: info.listed ∧
        gone.map (fun id => MapStep.removePdr (.new x.seid id)) = done := by
      rw [hids] at hpre
      refine ⟨info.listed.take done.length, List.take_prefix _ _, ?_⟩
      rw [List.map_take]
      exact (List.prefix_iff_eq_take.mp hpre).symm
    exact ⟨gone, (List.mem_inits ..).mpr hgone, verdict_dropped hk hinfo hseid hdone⟩
  · refine ⟨info.listed, (List.mem_inits ..).mpr List.prefix_rfl, ?_⟩
    rw [verdict_rules hk hinfo hseid hdone, List.foldl_append, view_removePdrs, hids]
    refine congrArg (fr.render e) (Frame.ruling_of_unusable (unusable_of_dropped
      (r := rulesOf m x.seid) ?_) (unusable_of_dropped rfl) fr)
    refine foldl_effect (fun v => v.rules.pdr) (fun s hs v => ?_) _
    have hmem := ((List.prefix_append_right_inj _).mp hdone).subset hs
    simp only [List.mem_append, List.mem_map] at hmem
    rcases hmem with ⟨id, -, rfl⟩ | ⟨id, -, rfl⟩ <;> rfl

end Row

/-- While the rules go, frames with a row of another session get what they got. -/
theorem verdict_kept (hseid : x.seid.toNat < 2 ^ 48)
    (hrows : ∀ k info, fr.key e = some k → m.sessionMap.lookup k = some info →
      info.seid.toNat < 2 ^ 48 ∧ info.seid ≠ x.seid)
    (hdone : done <+: x.ruleSteps e env m) :
    fr.verdict e (MapStep.applyAll m done) = fr.verdict e m := by
  have hperf : MapStep.performed m done = done :=
    performed_of_isPrefix (hdone.trans ruleSteps_isPrefix)
  refine verdict_applyAll hperf (fun k _ s hs t v => ruleSteps_row (hdone.subset hs) k t v)
    fun k info hk hinfo s hs v => ?_
  exact (ruleSteps_for (hdone.subset hs)).rules hseid (hrows k info hk hinfo).1
    (hrows k info hk hinfo).2 v

/-- Frames of other UEs get what they got. -/
theorem verdict_other (hseid : x.seid.toNat < 2 ^ 48)
    (hrows : ∀ k info, m.sessionMap.lookup k = some info → info.seid.toNat < 2 ^ 48 ∧
      (info.seid = x.seid → k = .ofIp e x.session.ueIp))
    (hk : fr.key e ≠ some (.ofIp e x.session.ueIp))
    (hdone : done <+: MapStep.ofDeletion (x.deletion e env m)) :
    fr.verdict e (MapStep.applyAll m done) = fr.verdict e m := by
  have hfor : ∀ s ∈ done, s.For x.seid (.ofIp e x.session.ueIp) := by
    intro s hs
    have hmem := hdone.subset hs
    rw [ofDeletion_eq, List.mem_append, List.mem_singleton] at hmem
    rcases hmem with hmem | rfl
    · exact ruleSteps_for hmem
    · rfl
  refine verdict_applyAll (performed_of_isPrefix hdone) (fun k hk' s hs t v => ?_)
    fun k info hk' hinfo s hs v => ?_
  · exact (hfor s hs).row (fun heq => hk (by rw [hk', heq])) v
  · refine (hfor s hs).rules hseid (hrows k info hinfo).1 (fun heq => hk ?_) v
    rw [hk', (hrows k info hinfo).2 heq]

/-- Without the row a frame of the UE passes. -/
theorem verdict_all (hk : fr.key e = some (.ofIp e x.session.ueIp)) :
    fr.verdict e (MapStep.applyAll m (MapStep.ofDeletion (x.deletion e env m))) = .pass := by
  have hnone := sessionMap_removeRules e env x.seid x.session m (.ofIp e x.session.ueIp)
  rw [if_pos rfl] at hnone
  rw [MapStep.applyAll_ofDeletion, Frame.verdict_eq, hk, Option.bind_some]
  change (match (removeRules e env x.seid x.session m).sessionMap.lookup _ with
    | none => Verdict.pass
    | some session => _) = _
  rw [hnone]

/-- While the PDRs go, a frame of the UE meets the service of the row without those that have
gone. -/
theorem verdicts_iff {info : SessionInfo} (hk : fr.key e = some (.ofIp e x.session.ueIp))
    (hinfo : m.sessionMap.lookup (.ofIp e x.session.ueIp) = some info) (hown : info.seid = x.seid)
    {P : Verdict → Prop} (hP : P .pass) :
    (∀ done, done <+: MapStep.ofDeletion (x.deletion e env m) →
        P (fr.verdict e (MapStep.applyAll m done))) ↔
      ∀ gone ∈ info.listed.inits,
        P ((serviceOf (dropPdrs (rulesOf m x.seid) gone) info).verdict e fr) := by
  have hids : (x.deletion e env m).pdrIds = info.listed := pdrIds_deletion hinfo
  have hrender : ∀ gone, fr.render e (fr.ruling e (dropPdrs (rulesOf m x.seid) gone) info) =
      (serviceOf (dropPdrs (rulesOf m x.seid) gone) info).verdict e fr := by
    intro gone
    rw [ruling_serviceOf, Service.render_ruling _ hk]
  constructor
  · intro h gone hgone
    have hdone : gone.map (fun id => MapStep.removePdr (.new x.seid id)) <+:
        x.ruleSteps e env m := by
      rw [ruleSteps, hids]
      exact (((List.mem_inits ..).mp hgone).map _).trans (List.prefix_append _ _)
    have hpoint := h _ (hdone.trans ruleSteps_isPrefix)
    rwa [verdict_dropped hk hinfo hown hdone, hrender] at hpoint
  · intro h done hdone
    rw [ofDeletion_eq] at hdone
    rcases List.prefix_concat_iff.mp hdone with rfl | hdone
    · rw [← ofDeletion_eq, verdict_all hk]
      exact hP
    · obtain ⟨gone, hgone, hverdict⟩ := verdict_done hk hinfo hown hdone
      rw [hverdict, hrender]
      exact h gone hgone

/-- The ids a rule key does not tell apart have the same row. -/
theorem rulesOf_sameId (m : Maps) (seid : UInt64) {i j : UInt32} (h : SameId i j) :
    (rulesOf m seid).pdr i = (rulesOf m seid).pdr j := by
  have hkey : PdrKey.new seid i = .new seid j :=
    congrArg PdrKey.mk ((composeKey_eq_iff seid i j).mpr h)
  show m.pdrMap.lookup _ = m.pdrMap.lookup _
  rw [hkey]

/-- What spares a frame the sight of the rules as they go. -/
theorem spares_iff {info : SessionInfo} {k : SessionKey} (hk : fr.key e = some k) :
    (∀ gone ∈ info.listed.inits,
        (serviceOf (dropPdrs (rulesOf m info.seid) gone) info).stops e fr = false ∧
          (fr.sendable e → (serviceOf (dropPdrs (rulesOf m info.seid) gone) info).leads fr =
            (serviceOf (dropPdrs (rulesOf m info.seid) info.listed) info).leads fr)) ↔
      Spares e m info fr := by
  have hsame : ∀ i j, SameId i j → (rulesOf m info.seid).pdr i = (rulesOf m info.seid).pdr j :=
    fun _ _ h => rulesOf_sameId m info.seid h
  cases fr with
  | n3 y f =>
    obtain ⟨p, hp, -⟩ := Option.map_eq_some_iff.mp hk
    have hstops : ∀ s : Service, s.stops e (.n3 y f) = s.drops ifaceAccess p.tuple :=
      fun s => by simp only [Service.stops, hp, Option.any_some]
    have hleads : ∀ s : Service, s.leads (.n3 y f) = none := fun _ => rfl
    simp only [hstops, hleads, implies_true, and_true, backed_iff hsame, Spares, hp,
      Option.mem_def, Option.some.injEq, forall_eq']
  | n6 y f =>
    obtain ⟨t, ht, -⟩ := Option.map_eq_some_iff.mp hk
    have hstops : ∀ s : Service, s.stops e (.n6 y f) =
        (s.drops ifaceCore t || s.coreFar.any isDrop) :=
      fun s => by simp only [Service.stops, ht, Option.any_some]
    have hlast : (serviceOf (dropPdrs (rulesOf m info.seid) info.listed) info).leads (.n6 y f) =
        some (info.gnbIp, info.teid) := by
      have hnone :
          (serviceOf (dropPdrs (rulesOf m info.seid) info.listed) info).coreFar = none := by
        rw [coreFar_dropPdrs, List.findSome?_eq_none_iff]
        exact fun id hid => if_pos ⟨id, hid, rfl⟩
      rw [Service.leads, hnone]
      rfl
    have hleads : ∀ gone, (serviceOf (dropPdrs (rulesOf m info.seid) gone) info).leads (.n6 y f) =
        some (info.gnbIp, info.teid) ↔
        ∀ far ∈ (serviceOf (dropPdrs (rulesOf m info.seid) gone) info).coreFar,
          isForw far → (far.gnbIp, far.teid) = (info.gnbIp, info.teid) := by
      intro gone
      rw [Service.leads, Option.some.injEq]
      cases (serviceOf (dropPdrs (rulesOf m info.seid) gone) info).coreFar with
      | none => simp [serviceOf]
      | some far => cases hforw : isForw far <;> simp [Option.filter, hforw, serviceOf]
    rw [Spares, ← coreFar_iff hsame, hlast]
    simp only [hleads, hstops]
    constructor
    · intro h gone hgone far hfar
      obtain ⟨hstop, hlead⟩ := h gone hgone
      rw [Bool.or_eq_false_iff, Option.mem_def.mp hfar, Option.any_some] at hstop
      exact ⟨hstop.2, fun hsend => hlead hsend far hfar⟩
    · intro h gone hgone
      refine ⟨?_, fun hsend far hfar => (h gone hgone far hfar).2 hsend⟩
      rw [drops_core fun rule hrule hcore far hfar =>
        ((coreFar_iff hsame _).mp h rule hrule hcore far hfar).1, Bool.false_or]
      cases hcore : (serviceOf (dropPdrs (rulesOf m info.seid) gone) info).coreFar with
      | none => rfl
      | some far => exact (h gone hgone far hcore).1

/-- A frame gets what it got before, or is passed, while the PDRs go. -/
theorem verdicts_leaving_iff {r : Rules} {info : SessionInfo} :
    (∀ gone ∈ info.listed.inits,
        (serviceOf (dropPdrs r gone) info).verdict e fr = (serviceOf r info).verdict e fr ∨
          (serviceOf (dropPdrs r gone) info).verdict e fr = .pass) ↔
      (∀ gone ∈ info.listed.inits, (serviceOf (dropPdrs r gone) info).stops e fr = false ∧
          (fr.sendable e → (serviceOf (dropPdrs r gone) info).leads fr =
            (serviceOf (dropPdrs r info.listed) info).leads fr)) ∨
        fr.sendable e = false ∧ (serviceOf r info).stops e fr = true := by
  have hmem : info.listed ∈ info.listed.inits := (List.mem_inits ..).mpr List.prefix_rfl
  have hlast : (serviceOf (dropPdrs r info.listed) info).stops e fr = false :=
    stops_of_unusable (unusable_of_dropped rfl) e fr
  cases hsend : fr.sendable e with
  | true =>
    simp only [Service.verdict_ne_pass hsend, or_false, Bool.true_eq_false, false_and, forall_const,
      Service.verdict_eq_iff hsend]
    constructor
    · intro h gone hgone
      obtain ⟨hstops, hleads⟩ := h gone hgone
      obtain ⟨hstops', hleads'⟩ := h _ hmem
      have hnone : (serviceOf r info).stops e fr = false := hstops'.symm.trans hlast
      exact ⟨hstops.trans hnone, (hleads (hstops.trans hnone)).trans (hleads' hlast).symm⟩
    · intro h gone hgone
      obtain ⟨hstops, hleads⟩ := h gone hgone
      obtain ⟨hstops', hleads'⟩ : (serviceOf r info).stops e fr = false ∧ _ :=
        h [] ((List.mem_inits ..).mpr List.nil_prefix)
      exact ⟨hstops.trans hstops'.symm, fun _ => hleads.trans hleads'.symm⟩
  | false =>
    have hsend' : ¬ fr.sendable e := by simp [hsend]
    simp only [Service.verdict_of_not_sendable hsend', Bool.false_eq_true, false_implies, and_true,
      true_and]
    cases hstops : (serviceOf r info).stops e fr with
    | true =>
      refine iff_of_true (fun gone _ => ?_) (.inr rfl)
      cases (serviceOf (dropPdrs r gone) info).stops e fr <;> simp
    | false =>
      simp only [Bool.false_eq_true, if_false, or_false, or_self]
      refine forall₂_congr fun gone _ => ?_
      cases (serviceOf (dropPdrs r gone) info).stops e fr <;> simp

/-- **The removals are atomic for a frame exactly when it does not notice them.** -/
theorem atomic_iff (hseid : x.seid.toNat < 2 ^ 48)
    (hrows : ∀ k info, m.sessionMap.lookup k = some info → info.seid.toNat < 2 ^ 48 ∧
      (info.seid = x.seid → k = .ofIp e x.session.ueIp)) :
    (∀ done, done <+: MapStep.ofDeletion (x.deletion e env m) →
      fr.verdict e (MapStep.applyAll m done) = fr.verdict e m ∨
        fr.verdict e (MapStep.applyAll m done) =
          fr.verdict e (MapStep.applyAll m (MapStep.ofDeletion (x.deletion e env m)))) ↔
      x.Unnoticed e m fr := by
  by_cases hk : fr.key e = some (.ofIp e x.session.ueIp)
  · by_cases hown : ∃ info, m.sessionMap.lookup (.ofIp e x.session.ueIp) = some info ∧
        info.seid = x.seid
    · obtain ⟨info, hinfo, hown⟩ := hown
      have hbefore : fr.verdict e m = (serviceOf (rulesOf m info.seid) info).verdict e fr := by
        rw [Service.verdict_serviceAt hk, Server.Maps.serviceAt, hinfo]
        rfl
      rw [verdict_all hk]
      refine (verdicts_iff (P := fun v => v = fr.verdict e m ∨ v = .pass) hk hinfo hown
        (.inr rfl)).trans ?_
      rw [← hown, hbefore, verdicts_leaving_iff, spares_iff hk]
      refine ⟨fun h _ info' hinfo' _ => ?_, fun h => h hk info hinfo hown⟩
      obtain rfl := Option.some.inj (hinfo.symm.trans hinfo')
      exact h
    · refine iff_of_true (fun done hdone => ?_)
        fun _ info hinfo heq => absurd ⟨info, hinfo, heq⟩ hown
      rw [ofDeletion_eq] at hdone
      rcases List.prefix_concat_iff.mp hdone with rfl | hdone
      · rw [← ofDeletion_eq]
        exact .inr rfl
      · refine .inl (verdict_kept hseid (fun k info hk' hinfo => ⟨(hrows k info hinfo).1, ?_⟩)
          hdone)
        intro heq
        obtain rfl := Option.some.inj (hk.symm.trans hk')
        exact hown ⟨info, hinfo, heq⟩
  · exact ⟨fun _ hk' => absurd hk' hk,
      fun _ done hdone => .inl (verdict_other hseid hrows hk hdone)⟩

end Removal

/-! ### Runs -/

namespace Audit

/-- A row with the SEID of a live session stands at the UE address of that session. -/
def RowsPlaced (host : Host) (a : Audit) : Prop :=
  ∀ k info data, a.maps.sessionMap.lookup k = some info →
    a.srv.sessions.lookup info.seid = some data → k = .ofIp host.endian data.ueIp

section Step

variable {host : Host} {n : ℕ} {a : Audit} {ev : Event}

theorem RowsPlaced.step (hi : Issued n a) (h : a.RowsPlaced host) :
    (a.step host ev).RowsPlaced host := by
  have hmove := a.step_move host ev
  generalize a.step host ev = a' at hmove ⊢
  have hnew : ∀ {data}, a.srv.sessions.lookup a.srv.nextSeid ≠ some data :=
    fun hlive => Nat.lt_irrefl _ (hi.live hlive)
  intro k info data hrow hlive
  cases hmove with
  | steady hw ho hl hest =>
    obtain ⟨info', hrow', hseid, -⟩ := hw.sessionRow_some hrow
    obtain ⟨data', hlive', hue, -⟩ := hw.session_some hlive
    rw [← hue]
    exact h k info' data' hrow' (hseid ▸ hlive')
  | heartbeat recvTs hhb hest hw ho hl | setup req hset hest hw ho hl
  | refused req assoc hest hnone hw ho hl =>
    rw [Audit.maps, hw] at hrow
    rw [Audit.srv, hw] at hlive
    exact h k info data hrow hlive
  | interrupted req assoc ueIp gnbInfo hest hue hgnb hinst ho hl =>
    have hin := installed hinst
    rw [Audit.srv, hin.sessions] at hlive
    rcases hin.row_seid hrow with hseid | hrow'
    · rw [hseid] at hlive
      exact absurd hlive hnew
    · exact h k info data hrow' hlive
  | established req assoc ueIp gnbInfo w' hest hue hgnb hinst hw ho hl =>
    have hin := installed hinst
    obtain ⟨info', hseid', hins⟩ := installed_row hinst
    rw [Audit.srv, hw] at hlive
    rw [Audit.maps, hw] at hrow
    have hlive' := (Table.lookup_insert_ite _ _ _ _).symm.trans hlive
    have hrow' := (BoundedTable.lookup_of_insert hins k).symm.trans hrow
    split_ifs at hrow' with hk
    · obtain rfl := Option.some.inj hrow'
      rw [if_pos hseid'] at hlive'
      rw [← Option.some.inj hlive', hk]
    · have hold : info.seid ≠ a.srv.nextSeid := fun heq =>
        Nat.lt_irrefl _ (heq ▸ hi.sessionRow hrow')
      rw [if_neg hold, hin.sessions] at hlive'
      exact h k info data hrow' hlive'
  | deleted seid session assoc hest hdel hw ho hl =>
    rw [Audit.srv, hw] at hlive
    rw [Audit.maps, hw, sessionMap_removeRules] at hrow
    have hlive' := (Table.lookup_erase_ite _ _ _).symm.trans hlive
    split_ifs at hrow hlive'
    exact h k info data hrow hlive'

/-- A SEID that has not been issued has no rules. -/
theorem Issued.rulesOf_next (h : Issued n a) (hlt : a.srv.nextSeid.toNat < 2 ^ 48) :
    rulesOf a.maps a.srv.nextSeid = .empty := by
  have hpart := seidPart_composeKey_of_lt hlt
  ext1
  · funext id
    refine Option.not_isSome_iff_eq_none.mp fun hsome => ?_
    have hissued := h.pdrRow hsome
    simp only [PdrKey.new, hpart] at hissued
    exact Nat.lt_irrefl _ hissued
  · funext id
    refine Option.not_isSome_iff_eq_none.mp fun hsome => ?_
    have hissued := h.farRow hsome
    simp only [FarKey.new, hpart] at hissued
    exact Nat.lt_irrefl _ hissued

/-- One datagram. -/
theorem atomic_iff_unnoticed (hi : Issued (2 ^ 48) a) (hp : a.RowsPlaced host) {env : Env}
    {now : Instant} {data : Bytes} {src : SocketAddr}
    (hb : a.IssuesBelow (2 ^ 48) (.datagram env now data src)) (fr : Frame) :
    a.Atomic host env now data src fr ↔ a.Unnoticed host env data src fr := by
  unfold Atomic mapSteps Unnoticed
  have hbelow : ∀ {k info}, a.maps.sessionMap.lookup k = some info → info.seid.toNat < 2 ^ 48 :=
    fun hrow => Nat.lt_of_lt_of_le (hi.sessionRow hrow) hi.next_le
  cases hc : a.change env (received data) src with
  | none =>
    refine ⟨fun _ _ hmem => (Option.not_mem_none _ hmem).elim, fun _ done hdone => ?_⟩
    rw [List.prefix_nil.mp hdone]
    exact .inl rfl
  | some c =>
    have hmaps : MapStep.applyAll a.maps (c.steps host.endian env a.maps) =
        (a.step host (.datagram env now data src)).maps := change_maps hc
    simp only [Option.map_some, Option.getD_some, ← hmaps, Option.mem_some_iff, forall_eq']
    cases c with
    | insertion x =>
      obtain ⟨assoc, hest, -, -, hx⟩ := change_insertion hc
      have hseid : x.seid = a.srv.nextSeid := congrArg Insertion.seid hx
      have hlt : a.srv.nextSeid.toNat < 2 ^ 48 := hb (.of_establishes hest)
      refine Insertion.atomic_iff (hseid ▸ hlt) (hseid ▸ hi.rulesOf_next hlt) fun k info hrow => ?_
      refine ⟨hbelow hrow, fun heq => Nat.lt_irrefl a.srv.nextSeid.toNat ?_⟩
      have hissued := hi.sessionRow hrow
      rwa [heq, hseid] at hissued
    | removal x =>
      obtain ⟨assoc, hdel⟩ := change_removal hc
      obtain ⟨-, hlive, -, -⟩ := of_deletes hdel
      have hseid := Nat.lt_of_lt_of_le (hi.live hlive) hi.next_le
      refine Removal.atomic_iff hseid fun k info hrow => ?_
      exact ⟨hbelow hrow, fun heq => hp k info x.session hrow (heq ▸ hlive)⟩

end Step

/-- **Atomic updates.**  After every run, the map steps of an establishment or a deletion are atomic
for a frame exactly when the rules of the request, or of the row in place, keep it from noticing
them. -/
theorem mapSteps_atomic_iff (host : Host) (b : Boot) (evs : List Event) (env : Env) (now : Instant)
    (data : Bytes) (src : SocketAddr) (fr : Frame)
    (hm : Meets (step host) (IssuesBelow (2 ^ 48)) (init b) (evs ++ [.datagram env now data src])) :
    (after host b evs).Atomic host env now data src fr ↔
      (after host b evs).Unnoticed host env data src fr := by
  obtain ⟨hm, hlast⟩ := meets_append.mp hm
  have hinv : Issued (2 ^ 48) (after host b evs) ∧ (after host b evs).RowsPlaced host := by
    refine run_inv (P := fun a => Issued (2 ^ 48) a ∧ a.RowsPlaced host)
      (fun _ _ h hg => ⟨h.1.step (by decide) hg, h.2.step h.1⟩)
      ⟨init_issued (by decide) b, ?_⟩ hm
    intro k info data hrow
    cases hrow
  exact atomic_iff_unnoticed hinv.1 hinv.2 hlast.1 fr

section Sim

open SmfSim

/-- An uplink TCP segment of the UE is passed on before the simulator's session is there, and
forwarded from its first insert on. -/
theorem mapSteps_atomic_iff_uplink :
    (after host boot [setup smfA 1]).Atomic host env 0
      (sessionEstablishment 1 smfA ue1 gnb 0x80000001) (peer smfA)
      (.n3 machine (uplinkFrame ue1)) := by
  refine (mapSteps_atomic_iff host boot [setup smfA 1] env 0 _ _ _ (by decide +kernel)).mpr ?_
  have hinsertion : (((after host boot [setup smfA 1]).change env
      (received (sessionEstablishment 1 smfA ue1 gnb 0x80000001)) (peer smfA)).bind
        Change.toInsertion).any (fun x => x.Unnoticed host.endian env
          (after host boot [setup smfA 1]).maps (.n3 machine (uplinkFrame ue1))) = true := by
    decide +kernel
  intro c hc
  rw [Option.mem_def.mp hc, Option.bind_some] at hinsertion
  cases c with
  | insertion x =>
    have hunnoticed : x.Unnoticed host.endian env (after host boot [setup smfA 1]).maps
        (.n3 machine (uplinkFrame ue1)) := of_decide_eq_true hinsertion
    exact hunnoticed
  | removal x => cases hinsertion

/-- A downlink segment that comes right after the first insert of the simulator's session is sent to
the gNB with the TEID that the UPF allocated for itself; before, it is passed on, and after, it has
the TEID of the gNB. -/
theorem not_atomic_downlink :
    ¬ (after host boot [setup smfA 1]).Atomic host env 0
      (sessionEstablishment 1 smfA ue1 gnb 0x80000001) (peer smfA)
      (.n6 machine (downlinkFrame ue1)) := by
  intro h
  have hpoint := h _ <| List.take_prefix 1 _
  revert hpoint
  decide +kernel

end Sim

end Audit

end UpfEdge
