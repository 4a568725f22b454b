import UpfEdge.Datagrams
import UpfEdge.Lib.Refinement
import UpfEdge.Placement
import UpfEdge.Rows
import UpfEdge.Selection

/-!
# The directory the data plane goes by

What the maps are for: a `Directory` gives each UE address the `Service` its packets get, a list of
rules and an endpoint.  The control plane gives three orders about it, to provide a service, to
change its tunnels and to withdraw it, and a frame gets what the service of its UE says.

The eBPF maps refine this.  `verdict_directory` says that the two programs, with their two walks
over three maps, decide by the directory the maps stand for, and `step_directory` that an event of
the UPF changes that directory by the one order it means, if it means one: as long as the SEIDs fit
into the keys, no two sessions share a UE address, and no establishment runs out of room on the way.
`directory_refined` puts the two together for whole runs, and `verdict_undisturbed` is what a UE is
interested in: in such runs its packets are treated as before until an order names its address.
-/

namespace UpfEdge

open Lib Pfcp Server Xdp

/-! ### Directories and orders -/

namespace Service

/-- One Update FAR: its tunnel becomes that of the FAR it names, and that of the service when it is
on the gNB's side. -/
def updateFar (e : Endian) (s : Service) (far : ParsedFAR) : Service :=
  match far.outerHeaderCreation with
  | none => s
  | some ohc =>
    { rules := s.rules.map fun rule =>
        (rule.1, if SameId rule.1.farId far.farId then rule.2.map (setFar e ohc) else rule.2)
      endpoint :=
        if far.destInterface = some ifaceAccess then
          (e.toBe32 ohc.peerAddr.toU32, e.toBe32 ohc.teid)
        else s.endpoint }

end Service

abbrev Directory : Type := Ipv4Addr → Option Service

/-- What the control plane asks for. -/
inductive Order where
  | provide (ueIp : Ipv4Addr) (s : Service)
  | retunnel (ueIp : Ipv4Addr) (fars : List ParsedFAR)
  | withdraw (ueIp : Ipv4Addr)

namespace Order

def ueIp : Order → Ipv4Addr
  | provide ueIp _ | retunnel ueIp _ | withdraw ueIp => ueIp

/-- What an order makes of the service of its address. -/
def service (e : Endian) (old : Option Service) : Order → Option Service
  | provide _ s => some s
  | retunnel _ fars => old.map fun s => fars.foldl (Service.updateFar e) s
  | withdraw _ => none

def apply (e : Endian) (d : Directory) (o : Order) : Directory :=
  Function.update d o.ueIp (o.service e (d o.ueIp))

/-- Orders about other addresses leave a service alone. -/
theorem run_apply_of_ne {e : Endian} {ip : Ipv4Addr} {os : List Order}
    (h : ∀ o ∈ os, o.ueIp ≠ ip) (d : Directory) : run (apply e) d os ip = d ip := by
  induction os generalizing d with
  | nil => rfl
  | cons o os ih =>
    have ho := h o (List.mem_cons_self ..)
    rw [run_cons, ih fun o' ho' => h o' (List.mem_cons_of_mem _ ho'), apply,
      Function.update_of_ne ho.symm]

end Order

/-! ### What the maps stand for -/

/-- The directory the maps stand for. -/
def Server.Maps.directory (e : Endian) (m : Maps) : Directory := fun ip =>
  (m.sessionMap.lookup (.ofIp e ip)).map fun info => serviceOf (rulesOf m info.seid) info

/-! ### Frames -/

/-- The address four octets stand for. -/
def Ipv4Addr.ofOctets (bs : Bytes) : Ipv4Addr :=
  ⟨bs.getD 0 0, bs.getD 1 0, bs.getD 2 0, bs.getD 3 0⟩

theorem Ipv4Addr.octets_ofOctets {bs : Bytes} (h : bs.length = 4) : (ofOctets bs).octets = bs := by
  obtain ⟨a, b, c, d, rfl⟩ := List.length_eq_four.mp h
  rfl

namespace Xdp.Frame

/-- The UE a frame is from or for. -/
def ue (e : Endian) : Frame → Option Ipv4Addr
  | .n3 _ f => (parseUplink e f).map fun p => .ofOctets (innerSource p f)
  | .n6 _ f => (parseDownlink e f).map fun _ => .ofOctets (destination f)

/-- What becomes of a frame by a directory. -/
def decide (e : Endian) (d : Directory) (fr : Frame) : Verdict :=
  match (fr.ue e).bind d with
  | none => .pass
  | some s => fr.render e (s.ruling e fr)

variable {e : Endian}

theorem key_eq (fr : Frame) : fr.key e = (fr.ue e).map (SessionKey.ofIp e) := by
  cases fr with
  | n3 x f =>
    rw [key, ue]
    cases hp : parseUplink e f with
    | none => rfl
    | some p =>
      rw [Option.map_some, Option.map_some, Option.map_some]
      have hlen : (innerSource p f).length = 4 := by
        obtain ⟨-, hsrc, -, -⟩ := parseUplink_reads hp
        obtain ⟨bs, hbs, -⟩ := Option.map_eq_some_iff.mp hsrc
        exact length_slice (ptrAt_eq_some hbs).1
      rw [(uplink_key_iff _ hp).mpr (Ipv4Addr.octets_ofOctets hlen).symm]
  | n6 x f =>
    rw [key, ue]
    cases ht : parseDownlink e f with
    | none => rfl
    | some t =>
      rw [Option.map_some, Option.map_some, Option.map_some]
      have hlen : (destination f).length = 4 :=
        length_slice (by have := parseDownlink_length ht; unfold ethHdrLen; omega)
      rw [(downlink_key_iff _ ht).mpr (Ipv4Addr.octets_ofOctets hlen).symm]

/-- **The programs decide by the directory.** -/
theorem verdict_directory (m : Maps) (fr : Frame) :
    fr.verdict e m = fr.decide e (m.directory e) := by
  rw [verdict_eq, key_eq, decide, Option.bind_map]
  cases fr.ue e with
  | none => rfl
  | some ip =>
    simp only [Option.bind_some, Function.comp_apply, Maps.directory]
    cases m.sessionMap.lookup (.ofIp e ip) with
    | none => rfl
    | some info => exact congrArg (fr.render e) (ruling_serviceOf _ info e fr)

end Xdp.Frame

/-! ### The order of an event -/

namespace Audit

/-- The order that an event means to the data plane. -/
def order (host : Host) (a : Audit) : Event → Option Order
  | .datagram env now data src =>
    match establishes env (received data) src a.world with
    | some (req, _) =>
      (req.createPdrs.findSome? (·.ueIp)).bind fun ueIp =>
        (req.createFars.findSome? (·.outerHeaderCreation)).map fun gnbInfo =>
          .provide ueIp (.requested host.endian a.srv.n3Addr ueIp a.srv.nextTeid gnbInfo req)
    | none =>
      match a.modification (.datagram env now data src),
        a.deletion (.datagram env now data src) with
      | some (_, session, req), _ => some (.retunnel session.ueIp req.updateFars)
      | none, some (_, session, _) => some (.withdraw session.ueIp)
      | none, none => none
  | _ => none

/-- An establishment that gets as far as its inserts is answered. -/
def Completes (host : Host) (a : Audit) (ev : Event) : Prop :=
  (a.admission ev).isSome → a.answered host ev

instance (host : Host) (a : Audit) (ev : Event) : Decidable (a.Completes host ev) :=
  inferInstanceAs (Decidable (_ → _))

end Audit

section Step

variable {e : Endian} {w w' : World} {ip ueIp : Ipv4Addr} {seid : UInt64}

/-- Work for one SEID and one address leaves the services of others alone. -/
theorem directory_of_kept {key : SessionKey} (h : Kept seid key w w') (hseid : seid.toNat < 2 ^ 48)
    (hip : .ofIp e ip ≠ key)
    (hrow : ∀ info, w.maps.sessionMap.lookup (.ofIp e ip) = some info →
      info.seid ≠ seid ∧ info.seid.toNat < 2 ^ 48) :
    w'.maps.directory e ip = w.maps.directory e ip := by
  unfold Maps.directory
  rw [h.sessionRow _ hip]
  refine Option.map_congr fun info hinfo => ?_
  obtain ⟨hne, hlt⟩ := hrow info hinfo
  have hsame := h.sameRules hseid hlt hne
  have hrules : rulesOf w'.maps info.seid = rulesOf w.maps info.seid := by
    ext1
    · exact funext hsame.pdr
    · exact funext hsame.far
  rw [hrules]

theorem farKey_eq_iff (id id' : UInt32) : FarKey.new seid id = .new seid id' ↔ SameId id id' := by
  rw [← composeKey_eq_iff seid]
  exact ⟨FarKey.mk.inj, congrArg FarKey.mk⟩

theorem pdrKey_eq_iff (i j : UInt16) :
    PdrKey.new seid i.toUInt32 = .new seid j.toUInt32 ↔ i = j := by
  rw [← sameId_pdrId, ← composeKey_eq_iff seid]
  exact ⟨PdrKey.mk.inj, congrArg PdrKey.mk⟩

/-- What an establishment that is answered puts in the directory. -/
theorem directory_of_written {env : Env} {now : Instant} {gnbInfo : OuterHeaderCreation}
    {req : SessionEstablishmentReq} (hnew : rulesOf w.maps w.srv.nextSeid = .empty)
    (h : install (installSteps e env w.srv.n3Addr w.srv.nextSeid w.srv.nextTeid ueIp gnbInfo req)
      (allocated (touched now w)) = (true, w')) :
    w'.maps.directory e ueIp =
      some (.requested e w.srv.n3Addr ueIp w.srv.nextTeid gnbInfo req) := by
  obtain ⟨hsession, hpdr, hfar, -, -⟩ := written h
  have hpdrs : ∀ first : ParsedPDR, (rulesOf w'.maps w.srv.nextSeid).pdr first.pdrId.toUInt32 =
      ((req.createPdrs.filter fun pdr => pdr.pdrId = first.pdrId).getLast?).map
        (pdrValue e ueIp) := by
    intro first
    have hold : w.maps.pdrMap.lookup (.new w.srv.nextSeid first.pdrId.toUInt32) = none :=
      congrFun (congrArg Rules.pdr hnew) _
    show w'.maps.pdrMap.lookup (.new w.srv.nextSeid first.pdrId.toUInt32) = _
    rw [hpdr, foldl_put_eq, hold, lastPut_map_entries, Option.or_none]
    simp only [pdrKey_eq_iff]
  have hfars : ∀ farId, (rulesOf w'.maps w.srv.nextSeid).far farId =
      ((req.createFars.filter fun far => SameId far.farId farId).getLast?).map
        (farValue e w.srv.n3Addr) := by
    intro farId
    have hold : w.maps.farMap.lookup (.new w.srv.nextSeid farId) = none :=
      congrFun (congrArg Rules.far hnew) _
    show w'.maps.farMap.lookup (.new w.srv.nextSeid farId) = _
    rw [hfar, foldl_put_eq, hold, lastPut_map_entries, Option.or_none]
    simp only [farKey_eq_iff]
  rw [Maps.directory, hsession, put, if_pos rfl, Option.map_some]
  refine congrArg some (Service.ext ?_ rfl)
  rw [serviceOf, listed_sessionInfo, List.filterMap_map]
  refine List.filterMap_congr fun first _ => ?_
  rw [Function.comp_apply]
  change ((rulesOf w'.maps w.srv.nextSeid).pdr _).map _ = _
  rw [hpdrs, Option.map_map]
  refine Option.map_congr fun pdr _ => ?_
  exact congrArg (Prod.mk _) (hfars _)

/-- One write to the FARs of a session. -/
theorem rules_setFar {m m' : Maps} {info info' : SessionInfo} {ohc : OuterHeaderCreation}
    {farId : UInt32} (hpdr : m'.pdrMap = m.pdrMap)
    (hfar : m'.farMap = m.farMap.modify (.new info.seid farId) (setFar e ohc))
    (hlisted : info'.listed = info.listed) :
    (serviceOf (rulesOf m' info.seid) info').rules =
      (serviceOf (rulesOf m info.seid) info).rules.map fun rule =>
        (rule.1, if SameId rule.1.farId farId then rule.2.map (setFar e ohc) else rule.2) := by
  have hfars : ∀ id, (rulesOf m' info.seid).far id =
      if SameId id farId then ((rulesOf m info.seid).far id).map (setFar e ohc)
      else (rulesOf m info.seid).far id := by
    intro id
    show m'.farMap.lookup (.new info.seid id) = _
    rw [hfar, BoundedTable.lookup_modify]
    simp only [farKey_eq_iff]
    rfl
  have hpdrs : (rulesOf m' info.seid).pdr = (rulesOf m info.seid).pdr := by
    funext id
    show m'.pdrMap.lookup _ = _
    rw [hpdr]
    rfl
  rw [serviceOf, serviceOf, hlisted, hpdrs, List.map_filterMap]
  refine List.filterMap_congr fun id _ => ?_
  rw [Option.map_map]
  exact Option.map_congr fun pdr _ => congrArg (Prod.mk pdr) (hfars _)

/-- One Update FAR of the session whose row it is. -/
theorem directory_updateFar {info : SessionInfo}
    (hrow : w.maps.sessionMap.lookup (.ofIp e ip) = some info) (hseid : info.seid = seid)
    (far : ParsedFAR) :
    (∃ info', (updateFar e seid (.ofIp e ip) far w).maps.sessionMap.lookup (.ofIp e ip) =
      some info' ∧ info'.seid = seid) ∧
    (updateFar e seid (.ofIp e ip) far w).maps.directory e ip =
      (w.maps.directory e ip).map (Service.updateFar e · far) := by
  subst hseid
  have hold : w.maps.directory e ip = some (serviceOf (rulesOf w.maps info.seid) info) := by
    rw [Maps.directory, hrow]
    rfl
  rw [hold]
  unfold updateFar Service.updateFar
  cases far.outerHeaderCreation with
  | none => exact ⟨⟨info, hrow, rfl⟩, hold⟩
  | some ohc =>
    simp only
    split_ifs with haccess
    · have hrow' : (w.maps.sessionMap.modify (.ofIp e ip) (setRow e ohc)).lookup (.ofIp e ip) =
          some (setRow e ohc info) := by
        rw [BoundedTable.lookup_modify, if_pos rfl, hrow]
        rfl
      refine ⟨⟨_, hrow', rfl⟩, ?_⟩
      refine (congrArg (Option.map _) hrow').trans (congrArg some (Service.ext ?_ rfl))
      exact rules_setFar rfl rfl rfl
    · refine ⟨⟨info, hrow, rfl⟩, ?_⟩
      refine (congrArg (Option.map _) hrow).trans (congrArg some (Service.ext ?_ rfl))
      exact rules_setFar rfl rfl rfl

/-- A modification of the session whose row it is. -/
theorem directory_modifySession {req : SessionModificationReq} {info : SessionInfo}
    (hrow : w.maps.sessionMap.lookup (.ofIp e ip) = some info) (hseid : info.seid = seid) :
    (modifySession e seid ip req w).maps.directory e ip =
      (w.maps.directory e ip).map fun s => req.updateFars.foldl (Service.updateFar e) s := by
  have hurrs : ∀ (urrs : List ParsedURR) (w : World),
      (urrs.foldl (fun w urr => updateUrr seid urr w) w).maps = w.maps := by
    intro urrs
    induction urrs with
    | nil => exact fun _ => rfl
    | cons urr urrs ih => exact fun w => ih (updateUrr seid urr w)
  rw [modifySession, hurrs]
  generalize req.updateFars = fars
  induction fars generalizing w info with
  | nil => simp
  | cons far fars ih =>
    obtain ⟨⟨info', hrow', hseid'⟩, hstep⟩ := directory_updateFar hrow hseid far
    rw [List.foldl_cons, ih hrow' hseid', hstep, Option.map_map]
    rfl

end Step

/-! ### One event -/

namespace Audit

/-- What a run keeps while its SEIDs fit into the keys and its addresses are not shared. -/
structure Tidy (host : Host) (a : Audit) : Prop where
  issued : Issued (2 ^ 48) a
  placed : a.RowsPlaced host
  own : a.OwnRows host

/-- What the refinement asks of an event. -/
structure Fits (host : Host) (a : Audit) (ev : Event) : Prop where
  below : a.IssuesBelow (2 ^ 48) ev
  newAddress : a.NewAddress ev
  completes : a.Completes host ev

instance (host : Host) (a : Audit) (ev : Event) : Decidable (a.Fits host ev) :=
  decidable_of_iff (a.IssuesBelow (2 ^ 48) ev ∧ a.NewAddress ev ∧ a.Completes host ev)
    ⟨fun h => ⟨h.1, h.2.1, h.2.2⟩, fun h => ⟨h.1, h.2, h.3⟩⟩

section

variable {host : Host} {a : Audit} {ev : Event}

theorem init_tidy (host : Host) (b : Boot) : (init b).Tidy host where
  issued := init_issued (by norm_num) b
  placed _ _ _ hrow := by cases hrow
  own _ _ hlive := by cases hlive

theorem Tidy.step (h : a.Tidy host) (hf : a.Fits host ev) : (a.step host ev).Tidy host where
  issued := h.issued.step (by decide) hf.below
  placed := h.placed.step h.issued
  own := h.own.step hf.newAddress

/-- Counters are no part of a service. -/
theorem directory_congr {e : Endian} {m m' : Maps} (hs : m'.sessionMap = m.sessionMap)
    (hp : m'.pdrMap = m.pdrMap) (hf : m'.farMap = m.farMap) : m'.directory e = m.directory e := by
  unfold Maps.directory rulesOf
  rw [hs, hp, hf]

/-- No event but an establishment that gets as far as its inserts provides a service. -/
theorem order_of_admission_none {env : Env} {now : Instant} {data : Bytes} {src : SocketAddr}
    (hadm : a.admission (.datagram env now data src) = none)
    (hmod : a.modification (.datagram env now data src) = none)
    (hdel : a.deletion (.datagram env now data src) = none) :
    a.order host (.datagram env now data src) = none := by
  rw [order, hmod, hdel]
  cases hest : establishes env (received data) src a.world with
  | none => rfl
  | some p =>
    obtain ⟨req, assoc⟩ := p
    rw [admission, hest, Option.bind_some] at hadm
    simp only
    cases hue : req.createPdrs.findSome? (·.ueIp) with
    | none => rfl
    | some ueIp =>
      simp only [hue, Option.map_some] at hadm
      cases hgnb : req.createFars.findSome? (·.outerHeaderCreation) with
      | none => rfl
      | some gnbInfo =>
        rw [hgnb] at hadm
        cases hadm

/-- A service the event does not name survives it. -/
theorem directory_of_ne {seid : UInt64} {ueIp : Ipv4Addr} {w' : World}
    (h : Kept seid (.ofIp host.endian ueIp) a.world w') (hi : Issued (2 ^ 48) a)
    (hseid : seid.toNat < 2 ^ 48)
    (hrow : ∀ k info, a.maps.sessionMap.lookup k = some info → k ≠ .ofIp host.endian ueIp →
      info.seid ≠ seid) {ip : Ipv4Addr} (hip : ip ≠ ueIp) :
    w'.maps.directory host.endian ip = a.maps.directory host.endian ip := by
  have hkey : SessionKey.ofIp host.endian ip ≠ .ofIp host.endian ueIp :=
    fun heq => hip (SessionKey.ofIp_inj _ heq)
  refine directory_of_kept h hseid hkey fun info hinfo => ⟨hrow _ info hinfo hkey, ?_⟩
  exact Nat.lt_of_lt_of_le (hi.sessionRow hinfo) hi.next_le

/-- An order changes a directory at one address. -/
theorem run_apply_eq {e : Endian} {d d' : Directory} {o : Order}
    (hself : d' o.ueIp = o.service e (d o.ueIp)) (hother : ∀ ip, ip ≠ o.ueIp → d' ip = d ip) :
    d' = run (Order.apply e) d (some o).toList := by
  funext ip
  rw [Option.toList_some, run_cons, run_nil, Order.apply]
  by_cases hip : ip = o.ueIp
  · rw [hip, Function.update_self, hself]
  · rw [Function.update_of_ne hip, hother ip hip]

/-- **One event changes the directory by the order it means.** -/
theorem step_directory (h : a.Tidy host) (hf : a.Fits host ev) :
    (a.step host ev).maps.directory host.endian =
      run (Order.apply host.endian) (a.maps.directory host.endian) (a.order host ev).toList := by
  by_cases hdatagram : ∃ env now data src, ev = .datagram env now data src
  swap
  · obtain ⟨stats, urrs, hm⟩ := UpfEdge.step_counters host a fun env now data src heq =>
      hdatagram ⟨env, now, data, src, heq⟩
    have hnone : a.order host ev = none := by
      cases ev with
      | datagram env now data src => exact absurd ⟨env, now, data, src, rfl⟩ hdatagram
      | snapshot | report | uplink | downlink => rfl
    rw [hnone, hm]
    exact directory_congr rfl rfl rfl
  obtain ⟨env, now, data, src, rfl⟩ := hdatagram
  have hw := step_writes host a env now data src
  generalize a.step host (.datagram env now data src) = a' at hw ⊢
  have hseid : ∀ {seid session}, a.Live seid session → seid.toNat < 2 ^ 48 := fun hlive =>
    Nat.lt_of_lt_of_le (h.issued.live hlive) h.issued.next_le
  have hplaced : ∀ {seid session}, a.Live seid session → ∀ k info,
      a.maps.sessionMap.lookup k = some info → k ≠ .ofIp host.endian session.ueIp →
      info.seid ≠ seid :=
    fun hlive k info hrow hk heq => hk (h.placed k info _ hrow (heq ▸ hlive))
  cases hw with
  | nothing hadm hmod hdel hm hc hs =>
    rw [order_of_admission_none hadm hmod hdel, hm]
    rfl
  | rules req assoc ueIp gnbInfo w' hest hue hgnb hmod hdel hinst hm hc hs =>
    have hadm : a.admission (.datagram env now data src) = some ⟨src, assoc, req.cpSeid, ueIp⟩ :=
      admission_of hest hue hgnb
    rw [hf.completes (by rw [hadm]; rfl)] at hinst
    have hlt : a.srv.nextSeid.toNat < 2 ^ 48 := hf.below (.of_establishes hest)
    have horder : a.order host (.datagram env now data src) = some (.provide ueIp
        (.requested host.endian a.srv.n3Addr ueIp a.srv.nextTeid gnbInfo req)) := by
      simp only [order, hest, hue, hgnb, Option.bind_some, Option.map_some]
    rw [horder, hm]
    refine run_apply_eq ?_ fun ip hip => ?_
    · exact directory_of_written (h.issued.rulesOf_next hlt) hinst
    · exact directory_of_ne (installed hinst).kept h.issued hlt
        (fun k info hrow _ => h.issued.sessionRow_ne k info hrow) hip
  | modified seid session req hiss hmod hdel hlive hw =>
    have hest : establishes env (received data) src a.world = none :=
      Option.not_isSome_iff_eq_none.mp hiss
    have horder : a.order host (.datagram env now data src) =
        some (.retunnel session.ueIp req.updateFars) := by
      simp only [order, hest, hmod]
    obtain ⟨info, hrow, hinfo⟩ := h.own seid session hlive
    have hkept : Kept seid (.ofIp host.endian session.ueIp) a.world a'.world := by
      have htouched : Kept seid (.ofIp host.endian session.ueIp) a.world (touched now a.world) :=
        .of_eq rfl rfl rfl rfl rfl rfl
      rw [hw]
      exact htouched.trans modifySession_kept
    rw [horder]
    refine run_apply_eq ?_ fun ip hip => ?_
    · show a'.world.maps.directory _ _ = _
      rw [hw]
      exact directory_modifySession (w := touched now a.world) hrow hinfo
    · exact directory_of_ne hkept h.issued (hseid hlive) (hplaced hlive) hip
  | deleted seid session assoc hiss hmod hdel hlive hm hc hs =>
    have hest : establishes env (received data) src a.world = none :=
      Option.not_isSome_iff_eq_none.mp hiss
    have horder : a.order host (.datagram env now data src) = some (.withdraw session.ueIp) := by
      simp only [order, hest, hmod, hdel]
    have hkept : Kept seid (.ofIp host.endian session.ueIp) a.world a'.world := by
      refine (Deletion.start host.endian seid session).collect env a.maps |>.remove_kept hm hc
        fun b hb => ?_
      show a'.srv.sessions.lookup b = _
      rw [hs]
      exact (Table.lookup_erase_ite _ _ _).trans (if_neg hb)
    rw [horder]
    refine run_apply_eq ?_ fun ip hip => ?_
    · show a'.maps.directory _ session.ueIp = none
      rw [hm, Maps.directory, sessionMap_removeRules, if_pos rfl]
      rfl
    · exact directory_of_ne hkept h.issued (hseid hlive) (hplaced hlive) hip

end

/-! ### Runs -/

section Runs

variable (host : Host) (b : Boot)

theorem after_tidy {evs : List Event} (hm : Meets (step host) (Fits host) (init b) evs) :
    (after host b evs).Tidy host :=
  run_inv (fun _ _ h hf => h.step hf) (init_tidy host b) hm

theorem directory_run {a : Audit} (h : a.Tidy host) {evs : List Event}
    (hm : Meets (step host) (Fits host) a evs) :
    (run (step host) a evs).maps.directory host.endian = run (Order.apply host.endian)
      (a.maps.directory host.endian) (orders (step host) (order host) a evs) :=
  run_refines (fun a : Audit => a.maps.directory host.endian) (fun _ _ h hf => h.step hf)
    (fun _ _ h hf => step_directory h hf) h hm

/-- A frame is treated by the service of its UE. -/
theorem verdict_of_directory {a a' : Audit} {fr : Frame} {ip : Ipv4Addr}
    (hue : fr.ue host.endian = some ip)
    (h : a'.maps.directory host.endian ip = a.maps.directory host.endian ip) :
    fr.verdict host.endian a'.maps = fr.verdict host.endian a.maps := by
  simp only [Frame.verdict_directory, Frame.decide, hue, Option.bind_some, h]

theorem directory_undisturbed {a : Audit} (h : a.Tidy host) {evs : List Event}
    (hm : Meets (step host) (Fits host) a evs) {ip : Ipv4Addr}
    (hothers : ∀ o ∈ orders (step host) (order host) a evs, o.ueIp ≠ ip) :
    (run (step host) a evs).maps.directory host.endian ip = a.maps.directory host.endian ip :=
  (congrFun (directory_run host h hm) ip).trans (Order.run_apply_of_ne hothers _)

/-- **The data plane is what the control plane has ordered.**  After a run whose SEIDs fit, whose
addresses are not shared and whose establishments complete, the maps stand for the directory that
the orders of the run make of the empty one, and both programs treat every frame by it. -/
theorem directory_refined (evs : List Event) (hm : Meets (step host) (Fits host) (init b) evs) :
    (after host b evs).maps.directory host.endian =
        run (Order.apply host.endian) (fun _ => none)
          (orders (step host) (order host) (init b) evs) ∧
      ∀ fr : Frame, fr.verdict host.endian (after host b evs).maps =
        fr.decide host.endian (run (Order.apply host.endian) (fun _ => none)
          (orders (step host) (order host) (init b) evs)) := by
  have hdir := directory_run host (init_tidy host b) hm
  refine ⟨hdir, fun fr => ?_⟩
  rw [Frame.verdict_directory]
  exact congrArg (fr.decide host.endian) hdir

/-- **A UE is not disturbed by orders for others.**  In a run whose SEIDs fit, whose establishments
name no address of another session and complete, its frames get the verdict they got before until
an order names its address. -/
theorem verdict_undisturbed (pre post : List Event)
    (hm : Meets (step host) (Fits host) (init b) (pre ++ post)) (fr : Frame) (ip : Ipv4Addr)
    (hue : fr.ue host.endian = some ip)
    (hothers : ∀ o ∈ orders (step host) (order host) (after host b pre) post, o.ueIp ≠ ip) :
    fr.verdict host.endian (after host b (pre ++ post)).maps =
      fr.verdict host.endian (after host b pre).maps := by
  obtain ⟨hpre, hpost⟩ := meets_append.mp hm
  refine verdict_of_directory host hue ?_
  rw [after, run_append]
  exact directory_undisturbed host (after_tidy host b hpre) hpost hothers

end Runs

section Sim

open SmfSim

/-- Two sessions, one of which is modified and deleted, with traffic in between. -/
def shared : List Event :=
  [setup smfA 1, setup smfB 1, establish smfA 1 ue1, establish smfB 1 ue2,
    .downlink machine (downlinkFrame ue1)]

/-- What happens to the second one. -/
def elsewhere : List Event :=
  [sends smfB (tunnelModification 2 gnb), .uplink machine (uplinkFrame ue2),
    sends smfB (sessionDeletion 2)]

theorem directory_refined_shared :
    (Frame.n6 machine (downlinkFrame ue1)).decide .little (run (Order.apply .little)
        (fun _ => none) (orders (step host) (order host) (init boot) (shared ++ elsewhere))) =
      .redirect (some (gnb.octets, [0x80, 0, 0, 1])) := by
  have h := directory_refined host boot (shared ++ elsewhere) (by decide +kernel)
  exact (h.2 _).symm.trans (by decide +kernel)

theorem verdict_undisturbed_shared :
    (Frame.n6 machine (downlinkFrame ue1)).verdict .little
        (after host boot (shared ++ elsewhere)).maps =
      (Frame.n6 machine (downlinkFrame ue1)).verdict .little (after host boot shared).maps :=
  verdict_undisturbed host boot shared elsewhere (by decide +kernel) _ ue1
    (by decide +kernel) (by decide +kernel)

end Sim

end Audit

end UpfEdge
