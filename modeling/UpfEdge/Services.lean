import Mathlib.Data.List.Infix
import UpfEdge.Lib.Search
import UpfEdge.Server.Handlers
import UpfEdge.Xdp.Verdict

/-!
# What the rules of a session do

A `Service` is what a session row and the rules of its SEID come to for the packets of a UE: the
rules in the order in which they are looked at, and an endpoint.  The walks of `select_far` and
`downlink_get_far` find the rule and the tunnel of the service (`selected_serviceOf`,
`tunnel_serviceOf`), so what the rules say of a frame is what the service says
(`ruling_serviceOf`): whether a FAR stops it, and where it is led if none does
(`Service.ruling_eq`).
-/

namespace UpfEdge

open Lib Pfcp Server Xdp

/-! ### Ids in rule keys -/

/-- Two ids that a rule key does not tell apart: it holds 16 bits of them. -/
def SameId (i j : UInt32) : Prop := i.toNat % 65536 = j.toNat % 65536

instance (i j : UInt32) : Decidable (SameId i j) := inferInstanceAs (Decidable (_ = _))

theorem composeKey_eq_iff (seid : UInt64) (i j : UInt32) :
    composeKey seid i = composeKey seid j ↔ SameId i j := by
  rw [← UInt64.toNat_inj, composeKey_toNat, composeKey_toNat]
  exact Nat.add_left_cancel_iff

theorem sameId_pdrId (i j : UInt16) : SameId i.toUInt32 j.toUInt32 ↔ i = j := by
  have hi := i.toNat_lt
  have hj := j.toNat_lt
  rw [SameId, UInt16.toNat_toUInt32, UInt16.toNat_toUInt32, Nat.mod_eq_of_lt hi,
    Nat.mod_eq_of_lt hj, UInt16.toNat_inj]

/-! ### Services -/

instance linearOrderUInt32 : LinearOrder UInt32 where
  le_refl := UInt32.le_refl
  le_trans _ _ _ := UInt32.le_trans
  lt_iff_le_not_ge a b := by simp only [UInt32.le_iff_toNat_le, UInt32.lt_iff_toNat_lt]; omega
  le_antisymm _ _ := UInt32.le_antisymm
  le_total := UInt32.le_total
  toDecidableLE := inferInstance
  toDecidableLT := inferInstance

/-- What is done with the packets of one UE: its rules in the order in which they are looked at,
each with its FAR if that is there, and the tunnel of a packet without a FAR that forwards it. -/
@[ext]
structure Service where
  rules : List (PdrValue × Option FarValue)
  endpoint : UInt32 × UInt32

namespace Service

/-- A rule for a packet: on its side, with a filter it passes, and with a FAR. -/
def applies (iface : UInt8) (t : FiveTuple) (rule : PdrValue × Option FarValue) :
    Option (PdrValue × FarValue) :=
  if rule.1.sourceInterface = iface ∧ sdfMatches rule.1 t then rule.2.map (rule.1, ·) else none

/-- The rule a packet goes by: of those for it, the first one of the least precedence.  The greatest
precedence is never chosen. -/
def choice (s : Service) (iface : UInt8) (t : FiveTuple) : Option (PdrValue × FarValue) :=
  least (applies iface t) (·.1.precedence) 0xFFFFFFFF s.rules

/-- The first FAR of a core-side rule. -/
def coreFar (s : Service) : Option FarValue :=
  s.rules.findSome? fun rule => if rule.1.sourceInterface = ifaceCore then rule.2 else none

/-- Where downlink packets go. -/
def tunnel (s : Service) : Option (UInt32 × UInt32) :=
  match s.coreFar with
  | some far =>
    if isDrop far then none else if isForw far then some (far.gnbIp, far.teid) else some s.endpoint
  | none => some s.endpoint

/-- Whether the rule a packet goes by drops it. -/
def drops (s : Service) (iface : UInt8) (t : FiveTuple) : Bool :=
  (s.choice iface t).any fun rule => isDrop rule.2

/-- What the service says about a frame. -/
def ruling (e : Endian) (s : Service) : Frame → Ruling
  | .n3 _ f =>
    match parseUplink e f with
    | some p => if s.drops ifaceAccess p.tuple then none else some none
    | none => some none
  | .n6 _ f =>
    match parseDownlink e f with
    | some t => if s.drops ifaceCore t then none else s.tunnel.map some
    | none => some none

/-- A FAR stops the frame: that of the rule it goes by, or that of the first core-side rule, which
leads the frames on N6. -/
def stops (e : Endian) (s : Service) : Frame → Bool
  | .n3 _ f => (parseUplink e f).any fun p => s.drops ifaceAccess p.tuple
  | .n6 _ f => (parseDownlink e f).any fun t => s.drops ifaceCore t || s.coreFar.any isDrop

/-- Where a frame goes that is not stopped: on N6 into the tunnel of the FAR that leads it if that
FAR forwards, else to the endpoint. -/
def leads (s : Service) : Frame → Option (UInt32 × UInt32)
  | .n3 .. => none
  | .n6 .. =>
    some (((s.coreFar.filter isForw).map fun far => (far.gnbIp, far.teid)).getD s.endpoint)

theorem ruling_eq {e : Endian} (s : Service) {fr : Frame} {k : SessionKey}
    (hk : fr.key e = some k) :
    s.ruling e fr = if s.stops e fr then none else some (s.leads fr) := by
  cases fr with
  | n3 x f =>
    obtain ⟨p, hp, -⟩ := Option.map_eq_some_iff.mp hk
    simp only [ruling, stops, leads, hp, Option.any_some]
  | n6 x f =>
    obtain ⟨t, ht, -⟩ := Option.map_eq_some_iff.mp hk
    simp only [ruling, stops, leads, ht, Option.any_some, tunnel]
    cases hdrops : s.drops ifaceCore t with
    | true => rfl
    | false =>
      cases hcore : s.coreFar with
      | none => rfl
      | some far =>
        cases hdrop : isDrop far with
        | true => simp [hdrop]
        | false => cases hforw : isForw far <;> simp [hdrop, hforw, Option.filter]

end Service

/-- The service that the rules of a SEID and a session row make. -/
def serviceOf (r : Rules) (info : SessionInfo) : Service where
  rules := info.listed.filterMap fun id => (r.pdr id).map fun pdr => (pdr, r.far pdr.farId)
  endpoint := (info.gnbIp, info.teid)

section Refined

variable (r : Rules) (info : SessionInfo)

theorem listed_of_pdrCount (h : ¬ info.pdrCount > 0) : info.listed = [] := by
  have hzero : info.pdrCount = 0 := by simpa using h
  rw [SessionInfo.listed, hzero]
  rfl

/-- The walk of `select_far` finds the rule of the service. -/
theorem selected_serviceOf (iface : UInt8) (t : FiveTuple) :
    r.selected info iface t =
      ((serviceOf r info).choice iface t).map fun rule => (rule.2, rule.1.urrId) := by
  -- the walk keeps the FAR and the URR id of the best rule so far, and its precedence
  have hwalk : ∀ (ids : List UInt32) (best : Option (PdrValue × FarValue) × UInt32),
      ids.foldl (r.selectStep iface t)
          (best.1.map fun rule => (rule.2, rule.1.urrId), best.2) =
        Prod.map (Option.map fun rule => (rule.2, rule.1.urrId)) id
          ((ids.filterMap fun id => (r.pdr id).map fun pdr => (pdr, r.far pdr.farId)).foldl
            (leastStep (Service.applies iface t) (·.1.precedence)) best) := by
    intro ids
    induction ids with
    | nil => exact fun _ => rfl
    | cons id ids ih =>
      intro best
      rw [List.foldl_cons, Rules.selectStep]
      cases hpdr : r.pdr id with
      | none =>
        rw [List.filterMap_cons_none (by rw [hpdr]; rfl)]
        exact ih best
      | some pdr =>
        rw [List.filterMap_cons_some (by rw [hpdr]; rfl), List.foldl_cons, ← ih]
        congr 1
        simp only [leastStep, Service.applies]
        by_cases hside : pdr.sourceInterface = iface
        · cases hsdf : sdfMatches pdr t with
          | false => simp [hside]
          | true =>
            cases hfar : r.far pdr.farId with
            | none => simp [hside]
            | some far =>
              by_cases hprec : pdr.precedence < best.2
              · simp [hside, hprec, UInt32.not_le.mpr hprec]
              · simp [hside, hprec, UInt32.not_lt.mp hprec]
        · simp [hside]
  unfold Rules.selected
  split_ifs with hcount
  · have hfold := hwalk info.listed (none, 0xFFFFFFFF)
    rw [foldl_leastStep] at hfold
    exact congrArg Prod.fst hfold
  · have hrules : (serviceOf r info).rules = [] := by
      rw [serviceOf, listed_of_pdrCount info hcount]
      rfl
    rw [Service.choice, hrules]
    rfl

/-- The walk of `downlink_get_far` finds the tunnel of the service. -/
theorem tunnel_serviceOf : r.tunnel info = (serviceOf r info).tunnel := by
  have hcore : (info.listed.findSome? fun pdrId => (r.pdr pdrId).bind fun pdr =>
      if pdr.sourceInterface ≠ ifaceCore then none else r.far pdr.farId) =
        (serviceOf r info).coreFar := by
    rw [Service.coreFar, serviceOf, ← List.head?_filterMap, ← List.head?_filterMap,
      List.filterMap_filterMap]
    congr 2
    funext id
    cases r.pdr id with
    | none => rfl
    | some pdr => simp only [Option.bind_some, Option.map_some, ite_not]
  unfold Rules.tunnel
  rw [hcore]
  split_ifs with hcount
  · rfl
  · have hnone : (serviceOf r info).coreFar = none := by
      rw [Service.coreFar, serviceOf, listed_of_pdrCount info hcount]
      rfl
    rw [Service.tunnel, hnone]
    rfl

theorem ruling_serviceOf (e : Endian) (fr : Frame) :
    fr.ruling e r info = (serviceOf r info).ruling e fr := by
  have hdrop : ∀ iface t, shouldDrop (r.selected info iface t) =
      (serviceOf r info).drops iface t := by
    intro iface t
    rw [selected_serviceOf, Service.drops]
    cases (serviceOf r info).choice iface t <;> rfl
  cases fr with
  | n3 x f =>
    cases hparse : parseUplink e f <;> simp only [Frame.ruling, Service.ruling, hparse, hdrop]
  | n6 x f =>
    cases hparse : parseDownlink e f <;>
      simp only [Frame.ruling, Service.ruling, hparse, hdrop, tunnel_serviceOf]

end Refined

/-- Without a usable rule nothing stops a frame. -/
theorem stops_of_unusable {r : Rules} {info : SessionInfo} (h : r.Unusable info) (e : Endian)
    (fr : Frame) : (serviceOf r info).stops e fr = false := by
  have hdrops : ∀ iface t, (serviceOf r info).drops iface t = false := by
    intro iface t
    have hselected := h.selected iface t
    rw [selected_serviceOf, Option.map_eq_none_iff] at hselected
    rw [Service.drops, hselected]
    rfl
  have hcore : (serviceOf r info).coreFar = none := by
    rw [Service.coreFar, List.findSome?_eq_none_iff]
    intro rule hrule
    obtain ⟨id, hid, hrow⟩ := List.mem_filterMap.mp hrule
    obtain ⟨pdr, hpdr, rfl⟩ := Option.map_eq_some_iff.mp hrow
    have hnone := h id hid
    rw [hpdr, Option.bind_some] at hnone
    simp only [hnone, ite_self]
  cases fr with
  | n3 x f => simp [Service.stops, hdrops]
  | n6 x f => simp [Service.stops, hdrops, hcore]

/-- The service of the row at a key. -/
def Server.Maps.serviceAt (m : Maps) (k : SessionKey) : Option Service :=
  (m.sessionMap.lookup k).map fun info => serviceOf (rulesOf m info.seid) info

/-! ### Changes that frames do not notice -/

namespace Service

/-- What a service makes of a frame. -/
def verdict (e : Endian) (s : Service) (fr : Frame) : Verdict :=
  if s.stops e fr then .drop
  else if fr.sendable e then
    .redirect ((s.leads fr).map fun t => (e.store32 t.1, e.store32 t.2))
  else .pass

theorem render_ruling {e : Endian} (s : Service) {fr : Frame} {k : SessionKey}
    (hk : fr.key e = some k) : fr.render e (s.ruling e fr) = s.verdict e fr := by
  rw [s.ruling_eq hk, verdict]
  split_ifs with hstops hsend
  · rfl
  · exact if_pos hsend
  · exact if_neg hsend

/-- The verdict on a frame is that of the service at its key. -/
theorem verdict_serviceAt {e : Endian} {m : Maps} {fr : Frame} {k : SessionKey}
    (hk : fr.key e = some k) :
    fr.verdict e m = ((m.serviceAt k).map (·.verdict e fr)).getD .pass := by
  rw [Frame.verdict_eq, hk, Option.bind_some, Server.Maps.serviceAt]
  cases m.sessionMap.lookup k with
  | none => rfl
  | some info =>
    simp only [Option.map_some, Option.getD_some]
    rw [ruling_serviceOf, render_ruling _ hk]

/-- What the FARs may do to a frame on the way from `old`, the service in place if there is one, to
`new`.  The first service on the way, `own`, is the new row without a FAR: it stops nothing and
leads to the endpoint of the row.

When the head of the frame can be moved as sending it needs: without a service in place, no FAR on
the way stops the frame and none leads it away from the endpoint of the row.  When `old` stopped it,
no FAR stops it in the end, and one that leads it away from that endpoint comes with one that stops
it.  When `old` let it through and `new` stops it, the same goes for a FAR that leads it elsewhere
than `old` did.  When `new` lets it through as well, no FAR on the way stops it, and each leads it
where `old` did or `new` does.

When the head cannot be moved, it makes no difference where the frame is led: no FAR on the way
stops it, or `new` does too, or else `old` stopped it and `new` does not. -/
def Unnoticed (e : Endian) (old : Option Service) (way : List Service) (own new : Service)
    (fr : Frame) : Prop :=
  if fr.sendable e then
    match old with
    | none => ∀ s ∈ way, s.stops e fr = false ∧ s.leads fr = own.leads fr
    | some old =>
      if old.stops e fr then
        new.stops e fr = false ∧ ∀ s ∈ way, s.stops e fr = true ∨ s.leads fr = own.leads fr
      else if new.stops e fr then
        ∀ s ∈ way, s.stops e fr = true ∨ s.leads fr = old.leads fr
      else
        ∀ s ∈ way, s.stops e fr = false ∧ (s.leads fr = old.leads fr ∨ s.leads fr = new.leads fr)
  else if old.any (·.stops e fr) then new.stops e fr = false
  else new.stops e fr = true ∨ ∀ s ∈ way, s.stops e fr = false

instance (e : Endian) (old : Option Service) (way : List Service) (own new : Service)
    (fr : Frame) : Decidable (Unnoticed e old way own new fr) := by
  unfold Unnoticed
  cases old <;> infer_instance

section Unnoticed

variable {e : Endian} {s s' : Service} {fr : Frame}

theorem verdict_of_stops (h : s.stops e fr = true) : s.verdict e fr = .drop := if_pos h

theorem verdict_of_not_sendable (hsend : ¬ fr.sendable e) (s : Service) :
    s.verdict e fr = if s.stops e fr then .drop else .pass := by
  rw [verdict, if_neg hsend]

theorem verdict_of_sendable (hsend : fr.sendable e) (h : s.stops e fr = false) :
    s.verdict e fr = .redirect ((s.leads fr).map fun t => (e.store32 t.1, e.store32 t.2)) := by
  rw [verdict, if_neg (by simp [h]), if_pos hsend]

theorem verdict_ne_pass (hsend : fr.sendable e) (s : Service) : s.verdict e fr ≠ .pass := by
  cases hs : s.stops e fr with
  | true => simp [verdict_of_stops hs]
  | false => simp [verdict_of_sendable hsend hs]

/-- Two services do the same to a frame that can be sent. -/
theorem verdict_eq_iff (hsend : fr.sendable e) : s.verdict e fr = s'.verdict e fr ↔
    s.stops e fr = s'.stops e fr ∧ (s.stops e fr = false → s.leads fr = s'.leads fr) := by
  have hinj : Function.Injective fun t : UInt32 × UInt32 => (e.store32 t.1, e.store32 t.2) :=
    fun t t' h => Prod.ext (store32_inj e (Prod.mk.inj h).1) (store32_inj e (Prod.mk.inj h).2)
  cases hs : s.stops e fr with
  | true =>
    cases hs' : s'.stops e fr with
    | true => simp [verdict_of_stops hs, verdict_of_stops hs']
    | false => simp [verdict_of_stops hs, verdict_of_sendable hsend hs']
  | false =>
    cases hs' : s'.stops e fr with
    | true => simp [verdict_of_sendable hsend hs, verdict_of_stops hs']
    | false =>
      rw [verdict_of_sendable hsend hs, verdict_of_sendable hsend hs', Verdict.redirect.injEq]
      exact ⟨fun h => ⟨rfl, fun _ => Option.map_injective hinj h⟩, fun h => by rw [h.2 rfl]⟩

/-- **No frame gets anything but what it got before or gets after exactly when it is unnoticed.** -/
theorem unnoticed_iff (old : Option Service) {way : List Service} {own new : Service}
    (hown : own ∈ way) (hnew : new ∈ way) (hstops : own.stops e fr = false) :
    (∀ s ∈ way, s.verdict e fr = (old.map (·.verdict e fr)).getD .pass ∨
        s.verdict e fr = new.verdict e fr) ↔ Unnoticed e old way own new fr := by
  unfold Unnoticed
  by_cases hsend : fr.sendable e
  · rw [if_pos hsend]
    cases old with
    | none =>
      simp only [Option.map_none, Option.getD_none, verdict_ne_pass hsend, false_or]
      constructor
      · intro h s hs
        obtain ⟨hstop, hlead⟩ := (verdict_eq_iff hsend).mp ((h s hs).trans (h own hown).symm)
        rw [hstops] at hstop
        exact ⟨hstop, hlead hstop⟩
      · intro h s hs
        obtain ⟨hstop, hlead⟩ := h s hs
        obtain ⟨hstop', hlead'⟩ := h new hnew
        exact (verdict_eq_iff hsend).mpr ⟨hstop.trans hstop'.symm, fun _ => hlead.trans hlead'.symm⟩
    | some old =>
      simp only [Option.map_some, Option.getD_some, verdict_eq_iff hsend]
      cases hold : old.stops e fr with
      | true =>
        rw [if_pos rfl]
        constructor
        · intro h
          obtain ⟨hnone, hfirst⟩ : new.stops e fr = false ∧ own.leads fr = new.leads fr := by
            rcases h own hown with ⟨hstop, -⟩ | ⟨hstop, hlead⟩
            · rw [hstops] at hstop
              cases hstop
            · exact ⟨hstop.symm.trans hstops, hlead hstops⟩
          refine ⟨hnone, fun s hs => ?_⟩
          rcases h s hs with ⟨hstop, -⟩ | ⟨hstop, hlead⟩
          · exact .inl hstop
          · exact .inr ((hlead (hstop.trans hnone)).trans hfirst.symm)
        · rintro ⟨hnone, h⟩ s hs
          have hfirst : new.leads fr = own.leads fr :=
            (h new hnew).resolve_left (by simp [hnone])
          cases hstop : s.stops e fr with
          | true => exact .inl ⟨rfl, fun hcontra => by cases hcontra⟩
          | false =>
            have hlead := (h s hs).resolve_left (by simp [hstop])
            exact .inr ⟨hnone.symm, fun _ => hlead.trans hfirst.symm⟩
      | false =>
        rw [if_neg Bool.false_ne_true]
        cases hlast : new.stops e fr with
        | true =>
          rw [if_pos rfl]
          refine forall₂_congr fun s hs => ?_
          cases hstop : s.stops e fr <;> simp
        | false =>
          rw [if_neg Bool.false_ne_true]
          refine forall₂_congr fun s hs => ?_
          cases hstop : s.stops e fr <;> simp
  · rw [if_neg hsend]
    have hbefore : (old.map (·.verdict e fr)).getD .pass =
        if old.any (·.stops e fr) then Verdict.drop else .pass := by
      cases old with
      | none => rfl
      | some old => simp [verdict_of_not_sendable hsend]
    rw [hbefore]
    simp only [verdict_of_not_sendable hsend]
    cases hold : old.any (·.stops e fr) with
    | true =>
      rw [if_pos rfl, if_pos rfl]
      constructor
      · intro h
        have := h own hown
        simpa [hstops] using this
      · intro h s hs
        cases hstop : s.stops e fr <;> simp [h]
    | false =>
      rw [if_neg Bool.false_ne_true, if_neg Bool.false_ne_true]
      cases hlast : new.stops e fr with
      | true =>
        refine iff_of_true (fun s _ => ?_) (.inl rfl)
        cases hstop : s.stops e fr <;> simp
      | false =>
        simp only [Bool.false_eq_true, false_or, if_false, or_self]
        refine forall₂_congr fun s hs => ?_
        cases hstop : s.stops e fr <;> simp

end Unnoticed

end Service

/-! ### The service of a request -/

/-- The ids a new row lists: those of the first eight PDRs, in order. -/
theorem listed_sessionInfo (e : Endian) (n3Addr : Ipv4Addr) (seid : UInt64) (teid : UInt32)
    (gnbInfo : OuterHeaderCreation) (pdrs : List ParsedPDR) :
    (sessionInfo e n3Addr seid teid gnbInfo pdrs).listed =
      (pdrs.take maxPdrPerSession).map fun pdr => pdr.pdrId.toUInt32 := by
  have hcount : (UInt8.ofNat (min pdrs.length maxPdrPerSession)).toNat =
      min pdrs.length maxPdrPerSession := by
    rw [UInt8.toNat_ofNat', maxPdrPerSession]
    omega
  rw [SessionInfo.listed, sessionInfo, hcount]
  refine List.ext_getElem ?_ fun i h₁ h₂ => ?_
  · simp only [List.length_take, List.length_map, Vector.length_toList]
    omega
  · have hi : i < pdrs.length := by
      simp only [List.length_map, List.length_take] at h₂
      omega
    simp [pdrIds, hi]

/-- The service an establishment asks for.  A session gets the rules of its first eight PDRs, each
with the last PDR of that id and the last FAR that PDR can mean, and the gNB and the TEID of its
row. -/
def Service.requested (e : Endian) (n3Addr ueIp : Ipv4Addr) (teid : UInt32)
    (gnbInfo : OuterHeaderCreation) (req : SessionEstablishmentReq) : Service where
  rules := (req.createPdrs.take maxPdrPerSession).filterMap fun first =>
    ((req.createPdrs.filter fun pdr => pdr.pdrId = first.pdrId).getLast?).map fun pdr =>
      (pdrValue e ueIp pdr,
        ((req.createFars.filter fun far =>
          SameId far.farId (pdr.farId.getD 0)).getLast?).map (farValue e n3Addr))
  endpoint := (e.toBe32 gnbInfo.peerAddr.toU32, e.toBe32 teid)

namespace Xdp.Rules

def empty : Rules := ⟨fun _ => none, fun _ => none⟩

def addPdr (r : Rules) (id : UInt32) (v : PdrValue) : Rules :=
  { r with pdr := fun i => if SameId i id then some v else r.pdr i }

def addFar (r : Rules) (id : UInt32) (v : FarValue) : Rules :=
  { r with far := fun i => if SameId i id then some v else r.far i }

def dropPdr (r : Rules) (id : UInt32) : Rules :=
  { r with pdr := fun i => if SameId i id then none else r.pdr i }

end Xdp.Rules

def addPdrs (e : Endian) (ueIp : Ipv4Addr) (r : Rules) (pdrs : List ParsedPDR) : Rules :=
  pdrs.foldl (fun r pdr => r.addPdr pdr.pdrId.toUInt32 (pdrValue e ueIp pdr)) r

def addFars (e : Endian) (n3Addr : Ipv4Addr) (r : Rules) (fars : List ParsedFAR) : Rules :=
  fars.foldl (fun r far => r.addFar far.farId (farValue e n3Addr far)) r

def dropPdrs (r : Rules) (ids : List UInt32) : Rules := ids.foldl Rules.dropPdr r

/-- The rules of a request of which the PDRs `pdrs` and the FARs `fars` are in place. -/
def requested (e : Endian) (n3Addr ueIp : Ipv4Addr) (pdrs : List ParsedPDR)
    (fars : List ParsedFAR) : Rules :=
  addFars e n3Addr (addPdrs e ueIp .empty pdrs) fars

/-- Without FARs no rule can be used. -/
theorem unusable_requested (e : Endian) (n3Addr ueIp : Ipv4Addr) (pdrs : List ParsedPDR)
    (info : SessionInfo) : (requested e n3Addr ueIp pdrs []).Unusable info := by
  have hfar : (requested e n3Addr ueIp pdrs []).far = fun _ => none :=
    List.foldlRecOn (motive := fun r : Rules => r.far = fun _ => none) pdrs _ rfl
      fun _ hr _ _ => hr
  intro id _
  rw [hfar]
  cases (requested e n3Addr ueIp pdrs []).pdr id <;> rfl

/-- The rules that the PDRs and FARs of a request make, when they come in one by one. -/
theorem lookup_foldl {α β σ : Type} (step : σ → α → σ) (look : σ → UInt32 → Option β)
    (p : α → UInt32 → Bool) (val : α → β)
    (h : ∀ s a i, look (step s a) i = if p a i then some (val a) else look s i)
    (as : List α) (s : σ) (i : UInt32) :
    look (as.foldl step s) i = (((as.filter (p · i)).getLast?).map val).or (look s i) := by
  induction as using List.reverseRecOn with
  | nil => rfl
  | append_singleton as a ih =>
    rw [List.foldl_append, List.foldl_cons, List.foldl_nil, h, ih, List.filter_append]
    cases hp : p a i with
    | true => simp [hp]
    | false => simp [hp]

theorem pdr_addPdrs (e : Endian) (ueIp : Ipv4Addr) (r : Rules) (pdrs : List ParsedPDR)
    (id : UInt32) : (addPdrs e ueIp r pdrs).pdr id =
      (((pdrs.filter fun pdr => SameId id pdr.pdrId.toUInt32).getLast?).map
        (pdrValue e ueIp)).or (r.pdr id) :=
  lookup_foldl
    (fun (r : Rules) (pdr : ParsedPDR) => r.addPdr pdr.pdrId.toUInt32 (pdrValue e ueIp pdr))
    Rules.pdr (fun pdr i => decide (SameId i pdr.pdrId.toUInt32)) (pdrValue e ueIp)
    (fun r pdr i => by simp only [Rules.addPdr, decide_eq_true_eq]) pdrs r id

theorem far_addFars (e : Endian) (n3Addr : Ipv4Addr) (r : Rules) (fars : List ParsedFAR)
    (id : UInt32) : (addFars e n3Addr r fars).far id =
      (((fars.filter fun far => SameId id far.farId).getLast?).map
        (farValue e n3Addr)).or (r.far id) :=
  lookup_foldl (fun (r : Rules) (far : ParsedFAR) => r.addFar far.farId (farValue e n3Addr far))
    Rules.far (fun far i => decide (SameId i far.farId)) (farValue e n3Addr)
    (fun r far i => by simp only [Rules.addFar, decide_eq_true_eq]) fars r id

theorem far_addPdrs (e : Endian) (ueIp : Ipv4Addr) (r : Rules) (pdrs : List ParsedPDR) :
    (addPdrs e ueIp r pdrs).far = r.far :=
  List.foldlRecOn (motive := fun r' : Rules => r'.far = r.far) pdrs _ rfl fun _ hr _ _ => hr

theorem pdr_addFars (e : Endian) (n3Addr : Ipv4Addr) (r : Rules) (fars : List ParsedFAR) :
    (addFars e n3Addr r fars).pdr = r.pdr :=
  List.foldlRecOn (motive := fun r' : Rules => r'.pdr = r.pdr) fars _ rfl fun _ hr _ _ => hr

theorem SameId.symm_iff {i j : UInt32} : SameId i j ↔ SameId j i := eq_comm

/-- **The row of a request and its rules with the FARs `fars` make the service that the request asks
for with these FARs.** -/
theorem serviceOf_requested (e : Endian) (n3Addr ueIp : Ipv4Addr) (seid : UInt64) (teid : UInt32)
    (gnbInfo : OuterHeaderCreation) (req : SessionEstablishmentReq) (fars : List ParsedFAR) :
    serviceOf (requested e n3Addr ueIp req.createPdrs fars)
        (sessionInfo e n3Addr seid teid gnbInfo req.createPdrs) =
      .requested e n3Addr ueIp teid gnbInfo { req with createFars := fars } := by
  have hpdrOf : ∀ id, (requested e n3Addr ueIp req.createPdrs fars).pdr id =
      ((req.createPdrs.filter fun pdr => SameId id pdr.pdrId.toUInt32).getLast?).map
        (pdrValue e ueIp) := by
    intro id
    rw [requested, pdr_addFars, pdr_addPdrs]
    exact Option.or_none
  have hfarOf : ∀ id, (requested e n3Addr ueIp req.createPdrs fars).far id =
      ((fars.filter fun far => SameId id far.farId).getLast?).map (farValue e n3Addr) := by
    intro id
    rw [requested, far_addFars, far_addPdrs]
    exact Option.or_none
  refine Service.ext ?_ rfl
  rw [serviceOf, listed_sessionInfo, List.filterMap_map]
  refine List.filterMap_congr fun first _ => ?_
  rw [Function.comp_apply, hpdrOf, Option.map_map]
  simp only [sameId_pdrId, eq_comm (a := first.pdrId)]
  refine Option.map_congr fun pdr _ => ?_
  rw [Function.comp_apply, hfarOf]
  simp only [SameId.symm_iff (i := (pdrValue e ueIp pdr).farId)]
  rfl

/-! ### FARs that come in one by one -/

/-- The rows of the PDRs that a new session lists, in this order. -/
def pdrRows (e : Endian) (ueIp : Ipv4Addr) (pdrs : List ParsedPDR) : List PdrValue :=
  (pdrs.take maxPdrPerSession).filterMap fun first =>
    ((pdrs.filter fun pdr => pdr.pdrId = first.pdrId).getLast?).map (pdrValue e ueIp)

/-- The FAR that a PDR means: the last one with its id. -/
def farOf (fars : List ParsedFAR) (pdr : PdrValue) : Option ParsedFAR :=
  (fars.filter fun far => SameId far.farId pdr.farId).getLast?

theorem rules_requested (e : Endian) (n3Addr ueIp : Ipv4Addr) (teid : UInt32)
    (gnbInfo : OuterHeaderCreation) (req : SessionEstablishmentReq) :
    (Service.requested e n3Addr ueIp teid gnbInfo req).rules =
      (pdrRows e ueIp req.createPdrs).map fun pdr =>
        (pdr, (farOf req.createFars pdr).map (farValue e n3Addr)) := by
  rw [pdrRows, List.map_filterMap]
  simp only [Option.map_map]
  rfl

/-- A PDR for the packet that can be chosen. -/
def ForPacket (iface : UInt8) (t : FiveTuple) (pdr : PdrValue) : Prop :=
  pdr.sourceInterface = iface ∧ sdfMatches pdr t = true ∧ pdr.precedence < 0xFFFFFFFF

/-- A FAR comes to decide on a packet when it comes in: a PDR for the packet names it, and no PDR
for the packet of a lesser precedence, or of the same and listed before, names it or one that came
in before. -/
def Decides (iface : UInt8) (t : FiveTuple) (pdrs : List PdrValue) (before : List ParsedFAR)
    (far : ParsedFAR) : Prop :=
  ComesFirst (ForPacket iface t) (fun q pdr => q.precedence ≤ pdr.precedence)
    (fun q pdr => q.precedence < pdr.precedence) (fun far pdr => SameId far.farId pdr.farId) pdrs
    before far

/-- A FAR comes to lead the frames on N6 when it comes in: a core-side PDR names it, and none listed
before names it or one that came in before. -/
def ComesToLead (pdrs : List PdrValue) (before : List ParsedFAR) (far : ParsedFAR) : Prop :=
  ComesFirst (fun pdr => pdr.sourceInterface = ifaceCore) (fun _ _ => True) (fun _ _ => False)
    (fun far pdr => SameId far.farId pdr.farId) pdrs before far

section Arriving

variable {s : Service} {pdrs : List PdrValue} {fars : List ParsedFAR} {val : ParsedFAR → FarValue}

theorem Service.drops_iff (h : s.rules = pdrs.map fun pdr => (pdr, (farOf fars pdr).map val))
    (iface : UInt8) (t : FiveTuple) : s.drops iface t = true ↔
      ∃ far, Foremost (ForPacket iface t) (fun q pdr => q.precedence ≤ pdr.precedence)
        (fun q pdr => q.precedence < pdr.precedence) (farOf fars) pdrs far ∧
          isDrop (val far) = true := by
  have hcand : ∀ pdr rule, Service.applies iface t (pdr, (farOf fars pdr).map val) = some rule ↔
      (pdr.sourceInterface = iface ∧ sdfMatches pdr t = true) ∧
        ∃ far, farOf fars pdr = some far ∧ rule = (pdr, val far) := by
    intro pdr rule
    rw [Service.applies]
    split_ifs with hside
    · rw [Option.map_map, Option.map_eq_some_iff]
      exact ⟨fun ⟨far, hfar, heq⟩ => ⟨hside, far, hfar, heq.symm⟩,
        fun ⟨_, far, hfar, heq⟩ => ⟨far, hfar, heq.symm⟩⟩
    · exact iff_of_false (by simp) fun hall => hside hall.1
  rw [Service.drops, Option.any_eq_true]
  simp only [Service.choice, h, ← List.filterMap_eq_map, least_filterMap, Function.comp_apply,
    Option.bind_some]
  constructor
  · rintro ⟨rule, hchoice, hdrop⟩
    obtain ⟨pre, pdr, post, hsplit, hrule, hlt, hpre, hpost⟩ := least_eq_some_iff.mp hchoice
    obtain ⟨hside, far, hfar, rfl⟩ := (hcand _ _).mp hrule
    refine ⟨far, ⟨pre, pdr, post, hsplit, ⟨hside.1, hside.2, hlt⟩, hfar, ?_, ?_⟩, hdrop⟩
    · intro q hq hfits hle
      by_contra hsome
      obtain ⟨far', hfar'⟩ := Option.ne_none_iff_exists'.mp hsome
      have hbetter := hpre q hq _ ((hcand _ _).mpr ⟨⟨hfits.1, hfits.2.1⟩, far', hfar', rfl⟩)
      exact absurd hle (not_le.mpr hbetter)
    · intro q hq hfits hlt'
      by_contra hsome
      obtain ⟨far', hfar'⟩ := Option.ne_none_iff_exists'.mp hsome
      have hbetter := hpost q hq _ ((hcand _ _).mpr ⟨⟨hfits.1, hfits.2.1⟩, far', hfar', rfl⟩)
      exact absurd hlt' (not_lt.mpr hbetter)
  · rintro ⟨far, ⟨pre, pdr, post, hsplit, hfits, hfar, hpre, hpost⟩, hdrop⟩
    refine ⟨(pdr, val far), least_eq_some_iff.mpr ⟨pre, pdr, post, hsplit,
      (hcand _ _).mpr ⟨⟨hfits.1, hfits.2.1⟩, far, hfar, rfl⟩, hfits.2.2, ?_, ?_⟩, hdrop⟩
    · intro q hq rule hrule
      obtain ⟨hside, far', hfar', rfl⟩ := (hcand _ _).mp hrule
      by_contra hle
      have hnone := hpre q hq ⟨hside.1, hside.2, (not_lt.mp hle).trans_lt hfits.2.2⟩ (not_lt.mp hle)
      rw [hnone] at hfar'
      cases hfar'
    · intro q hq rule hrule
      obtain ⟨hside, far', hfar', rfl⟩ := (hcand _ _).mp hrule
      by_contra hlt
      have hnone := hpost q hq ⟨hside.1, hside.2, (not_le.mp hlt).trans hfits.2.2⟩ (not_le.mp hlt)
      rw [hnone] at hfar'
      cases hfar'

theorem Service.coreFar_eq_some_iff
    (h : s.rules = pdrs.map fun pdr => (pdr, (farOf fars pdr).map val)) (v : FarValue) :
    s.coreFar = some v ↔
      ∃ far, Foremost (fun pdr => pdr.sourceInterface = ifaceCore) (fun _ _ => True)
        (fun _ _ => False) (farOf fars) pdrs far ∧ val far = v := by
  rw [Service.coreFar, h, List.findSome?_map, List.findSome?_eq_some_iff]
  simp only [Function.comp_apply]
  constructor
  · rintro ⟨pre, pdr, post, hsplit, hrule, hpre⟩
    split_ifs at hrule with hside
    obtain ⟨far, hfar, rfl⟩ := Option.map_eq_some_iff.mp hrule
    refine ⟨far, ⟨pre, pdr, post, hsplit, hside, hfar, fun q hq hfits _ => ?_,
      fun _ _ _ hfalse => hfalse.elim⟩, rfl⟩
    have hnone := hpre q hq
    rwa [if_pos hfits, Option.map_eq_none_iff] at hnone
  · rintro ⟨far, ⟨pre, pdr, post, hsplit, hside, hfar, hpre, -⟩, rfl⟩
    refine ⟨pre, pdr, post, hsplit, by rw [if_pos hside, hfar, Option.map_some], fun q hq => ?_⟩
    split_ifs with hfits
    · rw [hpre q hq hfits trivial, Option.map_none]
    · rfl

/-- The FAR that decides on a packet is the latest that came to decide on it. -/
theorem Service.drops_iff_latest
    (h : s.rules = pdrs.map fun pdr => (pdr, (farOf fars pdr).map val)) (iface : UInt8)
    (t : FiveTuple) : s.drops iface t = true ↔
      ∃ far, Latest (Decides iface t pdrs) fars far ∧ isDrop (val far) = true := by
  rw [Service.drops_iff h]
  refine exists_congr fun far => and_congr_left fun _ => foremost_iff_latest ?_ ?_
  · exact fun p q => not_lt.symm
  · exact fun hlt hle => ⟨hlt.le.trans hle, hlt.trans_le hle⟩

/-- The FAR that leads the frames on N6 is the latest that came to lead them. -/
theorem Service.coreFar_eq_some_iff_latest
    (h : s.rules = pdrs.map fun pdr => (pdr, (farOf fars pdr).map val)) (v : FarValue) :
    s.coreFar = some v ↔ ∃ far, Latest (ComesToLead pdrs) fars far ∧ val far = v := by
  rw [Service.coreFar_eq_some_iff h]
  refine exists_congr fun far => and_congr_left fun _ => foremost_iff_latest ?_ ?_
  · exact fun _ _ => iff_of_true trivial not_false
  · exact fun hfalse => hfalse.elim

variable {service : List ParsedFAR → Service} (h : ∀ part,
    (service part).rules = pdrs.map fun pdr => (pdr, (farOf part pdr).map val))

include h

/-- **The packets of a side are never dropped exactly when no FAR that comes to decide on them has
DROP.** -/
theorem forall_drops_iff (fars : List ParsedFAR) (iface : UInt8) (t : FiveTuple) :
    (∀ part, part <+: fars → (service part).drops iface t = false) ↔
      ∀ before far after, fars = before ++ far :: after →
        Decides iface t pdrs before far → isDrop (val far) = false := by
  refine Iff.trans ?_ (forall_latest_iff fun far => isDrop (val far) = false)
  refine forall₂_congr fun part _ => ?_
  rw [← Bool.not_eq_true, Service.drops_iff_latest (h part)]
  simp only [not_exists, not_and, Bool.not_eq_true]

/-- **What holds of every FAR that leads the frames on N6 at some time, and of those that come to
lead them when they come in.** -/
theorem forall_coreFar_iff (fars : List ParsedFAR) (P : FarValue → Prop) :
    (∀ part, part <+: fars → ∀ v, (service part).coreFar = some v → P v) ↔
      ∀ before far after, fars = before ++ far :: after →
        ComesToLead pdrs before far → P (val far) := by
  refine Iff.trans ?_ (forall_latest_iff fun far => P (val far))
  refine forall₂_congr fun part _ => ?_
  constructor
  · intro hall far hfar
    exact hall _ ((Service.coreFar_eq_some_iff_latest (h part) _).mpr ⟨far, hfar, rfl⟩)
  · intro hall v hv
    obtain ⟨far, hfar, rfl⟩ := (Service.coreFar_eq_some_iff_latest (h part) v).mp hv
    exact hall far hfar

end Arriving

/-! ### PDRs that go one by one -/

theorem pdr_dropPdrs (r : Rules) (ids : List UInt32) (id : UInt32) :
    (dropPdrs r ids).pdr id = if ∃ i ∈ ids, SameId id i then none else r.pdr id := by
  induction ids generalizing r with
  | nil => simp [dropPdrs]
  | cons i ids ih =>
    have hcons : dropPdrs r (i :: ids) = dropPdrs (r.dropPdr i) ids := rfl
    rw [hcons, ih, Rules.dropPdr]
    by_cases hi : SameId id i
    · simp [hi]
    · simp [hi]

theorem far_dropPdrs (r : Rules) (ids : List UInt32) : (dropPdrs r ids).far = r.far :=
  List.foldlRecOn (motive := fun r' : Rules => r'.far = r.far) ids _ rfl fun _ hr _ _ => hr

/-- The rule under a listed id, when it is one for the packet. -/
def ruleFor (r : Rules) (iface : UInt8) (t : FiveTuple) (id : UInt32) :
    Option (PdrValue × FarValue) :=
  (r.pdr id).bind fun pdr => Service.applies iface t (pdr, r.far pdr.farId)

/-- Every rule whose FAR drops the uplink packet has a better one for it listed behind, which goes
later.  An id that is listed again is gone with its first place. -/
def Backed (r : Rules) (info : SessionInfo) (t : FiveTuple) : Prop :=
  ∀ pre id post, info.listed = pre ++ id :: post → (∀ i ∈ pre, ¬ SameId id i) →
    ∀ rule ∈ ruleFor r ifaceAccess t id, rule.1.precedence < 0xFFFFFFFF → isDrop rule.2 = true →
      ∃ id' ∈ post, (∀ i ∈ pre, ¬ SameId id' i) ∧
        ∃ rule' ∈ ruleFor r ifaceAccess t id', rule'.1.precedence < rule.1.precedence

section Leaving

variable {r : Rules} {info : SessionInfo} {gone : List UInt32} {iface : UInt8} {t : FiveTuple}

theorem choice_dropPdrs : (serviceOf (dropPdrs r gone) info).choice iface t =
    least (fun id => if ∃ i ∈ gone, SameId id i then none else ruleFor r iface t id)
      (·.1.precedence) 0xFFFFFFFF info.listed := by
  rw [Service.choice, serviceOf, least_filterMap]
  congr 1
  funext id
  rw [pdr_dropPdrs, far_dropPdrs]
  split_ifs with hgone
  · rfl
  · rw [ruleFor, Option.bind_map]
    rfl

/-- **No rule drops uplink packets while the PDRs go exactly when each that does is backed.** -/
theorem backed_iff (hr : ∀ i j, SameId i j → r.pdr i = r.pdr j) :
    (∀ gone ∈ info.listed.inits, (serviceOf (dropPdrs r gone) info).drops ifaceAccess t = false) ↔
      Backed r info t := by
  constructor
  · intro h pre id post hsplit hfirst rule hrule hlt hdrop
    by_contra hnone
    push Not at hnone
    -- once everything before it has gone, the rule is the best of those left
    have hchoice : (serviceOf (dropPdrs r pre) info).choice ifaceAccess t = some rule := by
      rw [choice_dropPdrs, least_eq_some_iff]
      refine ⟨pre, id, post, hsplit, ?_, hlt, fun i hi d hd => ?_, fun i hi d hd => ?_⟩
      · rw [if_neg (by simpa using hfirst)]
        exact hrule
      · rw [if_pos ⟨i, hi, rfl⟩] at hd
        cases hd
      · split_ifs at hd with hgone
        exact hnone i hi (fun j hj hsame => hgone ⟨j, hj, hsame⟩) d hd
    have hfalse := h pre ((List.mem_inits ..).mpr ⟨_, hsplit.symm⟩)
    rw [Service.drops, hchoice, Option.any_some, hdrop] at hfalse
    cases hfalse
  · intro h gone hgone
    by_contra hdrops
    obtain ⟨rule, hchoice, hdrop⟩ := (Option.any_eq_true ..).mp (Bool.of_not_eq_false hdrops)
    rw [choice_dropPdrs, least_eq_some_iff] at hchoice
    obtain ⟨pre, id, post, hsplit, hrule, hlt, hpre, hpost⟩ := hchoice
    split_ifs at hrule with hid
    -- the rule has the first place of its id, and all that has gone is before it
    have hfirst : ∀ i ∈ pre, ¬ SameId id i := by
      intro i hi hsame
      have hsame' : ruleFor r ifaceAccess t i = ruleFor r ifaceAccess t id := by
        rw [ruleFor, ruleFor, hr _ _ hsame]
      have hkept : ¬ ∃ j ∈ gone, SameId i j :=
        fun ⟨j, hj, hij⟩ => hid ⟨j, hj, hsame.trans hij⟩
      exact lt_irrefl _ (hpre i hi rule (by rw [if_neg hkept, hsame', hrule]))
    have hbefore : gone <+: pre := by
      have hprefix : gone <+: pre ++ id :: post := by
        rw [← hsplit]
        exact (List.mem_inits ..).mp hgone
      rcases List.prefix_or_prefix_of_prefix hprefix (List.prefix_append pre _) with
        hle | ⟨rest, rfl⟩
      · exact hle
      · cases rest with
        | nil => simp
        | cons b rest =>
          obtain rfl :=
            (List.cons_prefix_cons.mp ((List.prefix_append_right_inj pre).mp hprefix)).1
          exact absurd ⟨b, by simp, rfl⟩ hid
    obtain ⟨id', hid', hkept, rule', hrule', hbetter⟩ :=
      h pre id post hsplit hfirst rule hrule hlt hdrop
    have hgone' : ¬ ∃ i ∈ gone, SameId id' i :=
      fun ⟨i, hi, hsame⟩ => hkept i (hbefore.subset hi) hsame
    have hle := hpost id' hid' rule' (by rw [if_neg hgone']; exact hrule')
    exact absurd hbetter (not_lt.mpr hle)

theorem coreFar_dropPdrs : (serviceOf (dropPdrs r gone) info).coreFar =
    info.listed.findSome? fun id => if ∃ i ∈ gone, SameId id i then none else
      (r.pdr id).bind fun pdr =>
        if pdr.sourceInterface = ifaceCore then r.far pdr.farId else none := by
  rw [Service.coreFar, serviceOf, ← List.head?_filterMap, ← List.head?_filterMap,
    List.filterMap_filterMap]
  congr 2
  funext id
  rw [pdr_dropPdrs, far_dropPdrs]
  split_ifs with hgone
  · rfl
  · rw [Option.bind_map]
    rfl

/-- **While the PDRs go, every FAR of a core-side PDR comes to lead the frames on N6.** -/
theorem coreFar_iff (hr : ∀ i j, SameId i j → r.pdr i = r.pdr j) (P : FarValue → Prop) :
    (∀ gone ∈ info.listed.inits, ∀ far ∈ (serviceOf (dropPdrs r gone) info).coreFar, P far) ↔
      ∀ rule ∈ (serviceOf r info).rules, rule.1.sourceInterface = ifaceCore →
        ∀ far ∈ rule.2, P far := by
  constructor
  · intro h rule hmem hcore far hfar
    obtain ⟨id, hid, hrule⟩ := List.mem_filterMap.mp hmem
    obtain ⟨pdr, hpdr, rfl⟩ := Option.map_eq_some_iff.mp hrule
    -- the first place of the id: once all before it has gone, it leads
    obtain ⟨id', hfind⟩ : ∃ id', info.listed.find? (fun i => decide (SameId id i)) = some id' :=
      Option.isSome_iff_exists.mp (List.find?_isSome.mpr ⟨id, hid, decide_eq_true rfl⟩)
    obtain ⟨hsame, pre, post, hsplit, hpre⟩ := List.find?_eq_some_iff_append.mp hfind
    have hsame' : SameId id id' := of_decide_eq_true hsame
    refine h pre ((List.mem_inits ..).mpr ⟨_, hsplit.symm⟩) far ?_
    rw [Option.mem_def, coreFar_dropPdrs, List.findSome?_eq_some_iff]
    refine ⟨pre, id', post, hsplit, ?_, fun i hi => if_pos ⟨i, hi, rfl⟩⟩
    have hnew : ∀ i ∈ pre, ¬ SameId id i := fun i hi => by simpa using hpre i hi
    have hkept : ¬ ∃ i ∈ pre, SameId id' i := fun ⟨i, hi, hi'⟩ => hnew i hi (hsame'.trans hi')
    rw [if_neg hkept, ← hr id id' hsame', hpdr, Option.bind_some, if_pos hcore]
    exact hfar
  · intro h gone _ far hfar
    rw [Option.mem_def, coreFar_dropPdrs, List.findSome?_eq_some_iff] at hfar
    obtain ⟨pre, id, post, hsplit, hid, -⟩ := hfar
    split_ifs at hid
    obtain ⟨pdr, hpdr, hfar⟩ := Option.bind_eq_some_iff.mp hid
    split_ifs at hfar with hcore
    refine h (pdr, r.far pdr.farId) (List.mem_filterMap.mpr ⟨id, by simp [hsplit], ?_⟩) hcore far
      hfar
    rw [hpdr, Option.map_some]

/-- A downlink packet goes by a FAR of a core-side PDR. -/
theorem drops_core (h : ∀ rule ∈ (serviceOf r info).rules, rule.1.sourceInterface = ifaceCore →
    ∀ far ∈ rule.2, isDrop far = false) :
    (serviceOf (dropPdrs r gone) info).drops ifaceCore t = false := by
  by_contra hdrops
  obtain ⟨rule, hchoice, hdrop⟩ := (Option.any_eq_true ..).mp (Bool.of_not_eq_false hdrops)
  rw [choice_dropPdrs] at hchoice
  obtain ⟨id, hid, hrule⟩ := mem_of_least hchoice
  split_ifs at hrule
  obtain ⟨pdr, hpdr, happlies⟩ := Option.bind_eq_some_iff.mp hrule
  rw [Service.applies] at happlies
  split_ifs at happlies with hside
  obtain ⟨far, hfar, rfl⟩ := Option.map_eq_some_iff.mp happlies
  have hnot := h (pdr, r.far pdr.farId)
    (List.mem_filterMap.mpr ⟨id, hid, by rw [hpdr, Option.map_some]⟩) hside.1 far hfar
  rw [hnot] at hdrop
  cases hdrop

end Leaving

end UpfEdge
