import UpfEdge.Filter
import UpfEdge.Placement
import UpfEdge.Selection

/-!
# Every rule of a request

A session row has room for eight PDR ids, while the loops that write the rows of the PDRs and
acknowledge them have no bound: a ninth PDR is accepted, and no packet reaches it.  Nor does
`select_far` ever come to a PDR that has the greatest precedence, that names a FAR which is not
there, or that a better PDR hides, whose filter lets through all that its own does.  An acknowledged
PDR is chosen for some five-tuple in all other cases: eight PDRs are too few to hide another one
together, as a filter compares a field with one value or not at all (`exists_unhidden`).
-/

namespace UpfEdge

open Lib Pfcp Server Xdp

/-- The data plane reaches a PDR of the session for `ueIp`: the row of the session lists its id, and
PDR_MAP has its precedence, source interface, filter, FAR id and URR id. -/
def Reached (e : Endian) (m : Maps) (ueIp : Ipv4Addr) (pdr : ParsedPDR) : Prop :=
  ∃ info row, m.sessionMap.lookup (.ofIp e ueIp) = some info ∧ pdr.pdrId.toUInt32 ∈ info.listed ∧
    m.pdrMap.lookup (.new info.seid pdr.pdrId.toUInt32) = some row ∧ RowOfPdr e pdr row

/-- For some five-tuple `select_far` comes to the PDR of an id when it is called for the access
side: its walk takes the PDR at its turn and none after it, so that it returns the FAR and the URR
id of the PDR. -/
def Matchable (e : Endian) (m : Maps) (ueIp : Ipv4Addr) (pdrId : UInt16) : Prop :=
  ∃ info pre post t, m.sessionMap.lookup (.ofIp e ueIp) = some info ∧
    info.listed = pre ++ pdrId.toUInt32 :: post ∧
    let before := pre.foldl (selectStep m info.seid ifaceAccess t) (none, 0xFFFFFFFF)
    let taken := selectStep m info.seid ifaceAccess t before pdrId.toUInt32
    taken ≠ before ∧ post.foldl (selectStep m info.seid ifaceAccess t) taken = taken ∧
      selectFar m info ifaceAccess t = taken.1

/-- Every PDR of an establishment from `w` is reached, and every id that its response has a Created
PDR for can be matched. -/
structure InstallsAll (e : Endian) (w : World) (m : Maps) (ueIp : Ipv4Addr)
    (req : SessionEstablishmentReq) : Prop where
  reached : ∀ pdr ∈ req.createPdrs, Reached e m ueIp pdr
  acknowledged : ∀ created ∈ createdPdrs w.srv.n3Addr w.srv.nextTeid req.createPdrs,
    Matchable e m ueIp created.1

/-! ### The turn of a PDR -/

section Turn

variable {m : Maps} {info : SessionInfo} {iface : UInt8} {t : FiveTuple}

/-- The walk over the ids before a PDR has found nothing as good as the PDR. -/
theorem lt_foldl_iff {ids : List UInt32} {p : UInt32} :
    p < (ids.foldl (selectStep m info.seid iface t) (none, 0xFFFFFFFF)).2 ↔
      p < 0xFFFFFFFF ∧ ∀ id ∈ ids, ∀ r, applicable m info iface t id = some r →
        p < r.1.precedence := by
  rcases foldl_selectStep m info iface t ids (none, 0xFFFFFFFF) with
    ⟨heq, hge⟩ | ⟨pre, id, post, pdr, far, hsplit, happ, hlt, heq, hpre, hpost⟩
  · rw [heq]
    exact ⟨fun h => ⟨h, fun id hid r hr => h.trans_le (hge id hid r hr)⟩, fun h => h.1⟩
  · rw [heq]
    constructor
    · intro h
      refine ⟨h.trans hlt, fun id' hid' r hr => ?_⟩
      rw [hsplit, List.mem_append, List.mem_cons] at hid'
      rcases hid' with hid' | rfl | hid'
      · exact h.trans (hpre id' hid' r hr)
      · rwa [← Option.some.inj (happ.symm.trans hr)]
      · exact h.trans_le (hpost id' hid' r hr)
    · intro h
      exact h.2 id (by simp [hsplit]) _ happ

/-- The walk over the ids behind a PDR finds nothing better. -/
theorem foldl_eq_self_iff {ids : List UInt32} (best : Option (FarValue × UInt32) × UInt32) :
    ids.foldl (selectStep m info.seid iface t) best = best ↔
      ∀ id ∈ ids, ∀ r, applicable m info iface t id = some r → best.2 ≤ r.1.precedence := by
  rcases foldl_selectStep m info iface t ids best with
    ⟨heq, hge⟩ | ⟨pre, id, post, pdr, far, hsplit, happ, hlt, heq, hpre, hpost⟩
  · exact iff_of_true heq hge
  · refine iff_of_false (fun hself => ?_) fun hge => ?_
    · rw [heq] at hself
      rw [← hself] at hlt
      exact lt_irrefl _ hlt
    · exact absurd hlt (not_lt.mpr (hge id (by simp [hsplit]) _ happ))

/-- **When the walk takes a PDR at its turn and keeps it.** -/
theorem taken_iff {pre post : List UInt32} {id : UInt32}
    (hsplit : info.listed = pre ++ id :: post) :
    (let before := pre.foldl (selectStep m info.seid iface t) (none, 0xFFFFFFFF)
     let taken := selectStep m info.seid iface t before id
     taken ≠ before ∧ post.foldl (selectStep m info.seid iface t) taken = taken ∧
       selectFar m info iface t = taken.1) ↔
      ∃ r, applicable m info iface t id = some r ∧ r.1.precedence < 0xFFFFFFFF ∧
        (∀ id' ∈ pre, ∀ r', applicable m info iface t id' = some r' →
          r.1.precedence < r'.1.precedence) ∧
        ∀ id' ∈ post, ∀ r', applicable m info iface t id' = some r' →
          r.1.precedence ≤ r'.1.precedence := by
  simp only
  rw [selectStep_eq]
  cases happ : applicable m info iface t id with
  | none => simp
  | some r =>
    obtain ⟨pdr, far⟩ := r
    simp only
    split_ifs with hlt
    · have hselect : selectFar m info iface t = (post.foldl (selectStep m info.seid iface t)
          (some (far, pdr.urrId), pdr.precedence)).1 := by
        rw [selectFar, hsplit, List.foldl_append, List.foldl_cons, selectStep_eq, happ]
        simp only [if_pos hlt]
      have hne : ((some (far, pdr.urrId), pdr.precedence) : Option (FarValue × UInt32) × UInt32) ≠
          pre.foldl (selectStep m info.seid iface t) (none, 0xFFFFFFFF) := by
        intro heq
        rw [← heq] at hlt
        exact lt_irrefl _ hlt
      obtain ⟨hmax, hpre⟩ := lt_foldl_iff.mp hlt
      constructor
      · rintro ⟨-, hpost, -⟩
        exact ⟨(pdr, far), rfl, hmax, hpre, (foldl_eq_self_iff _).mp hpost⟩
      · rintro ⟨r, hr, -, -, hpost⟩
        obtain rfl := Option.some.inj hr
        have hself := (foldl_eq_self_iff (some (far, pdr.urrId), pdr.precedence)).mpr hpost
        exact ⟨hne, hself, by rw [hselect, hself]⟩
    · refine iff_of_false (fun h => h.1 rfl) ?_
      rintro ⟨r, hr, hmax, hpre, -⟩
      obtain rfl := Option.some.inj hr
      exact hlt (lt_foldl_iff.mpr ⟨hmax, hpre⟩)

end Turn

/-! ### Filters that hide others -/

/-- The filter of `q` lets through whatever that of `p` does: the fields it compares, that of `p`
compares too, and with the same values. -/
structure Covers (q p : ParsedPDR) : Prop where
  proto : (filterOf q).proto = 0 ∨ (filterOf q).proto = (filterOf p).proto
  srcIp : (filterOf q).srcIp = .unspecified ∨ (filterOf q).srcIp = (filterOf p).srcIp
  dstIp : (filterOf q).dstIp = .unspecified ∨ (filterOf q).dstIp = (filterOf p).dstIp
  srcPort : (filterOf q).srcPort = 0 ∨ (filterOf q).srcPort = (filterOf p).srcPort
  dstPort : (filterOf q).dstPort = 0 ∨ (filterOf q).dstPort = (filterOf p).dstPort

instance (q p : ParsedPDR) : Decidable (Covers q p) :=
  decidable_of_iff (((filterOf q).proto = 0 ∨ (filterOf q).proto = (filterOf p).proto) ∧
      ((filterOf q).srcIp = .unspecified ∨ (filterOf q).srcIp = (filterOf p).srcIp) ∧
      ((filterOf q).dstIp = .unspecified ∨ (filterOf q).dstIp = (filterOf p).dstIp) ∧
      ((filterOf q).srcPort = 0 ∨ (filterOf q).srcPort = (filterOf p).srcPort) ∧
      ((filterOf q).dstPort = 0 ∨ (filterOf q).dstPort = (filterOf p).dstPort))
    ⟨fun ⟨h₁, h₂, h₃, h₄, h₅⟩ => ⟨h₁, h₂, h₃, h₄, h₅⟩,
      fun h => ⟨h.proto, h.srcIp, h.dstIp, h.srcPort, h.dstPort⟩⟩

section Hidden

variable {e : Endian} {ueIp : Ipv4Addr}

/-- What the filter of a PDR compares, as the row has it. -/
theorem sdfMatches_pdrValue (pdr : ParsedPDR) (t : FiveTuple) :
    sdfMatches (pdrValue e ueIp pdr) t = true ↔
      ((filterOf pdr).proto ≠ 0 → (filterOf pdr).proto = t.proto) ∧
      ((filterOf pdr).srcIp ≠ .unspecified → e.toBe32 (filterOf pdr).srcIp.toU32 = t.srcIp) ∧
      ((filterOf pdr).dstIp ≠ .unspecified → e.toBe32 (filterOf pdr).dstIp.toU32 = t.dstIp) ∧
      ((filterOf pdr).srcPort ≠ 0 → (filterOf pdr).srcPort = t.srcPort) ∧
      ((filterOf pdr).dstPort ≠ 0 → (filterOf pdr).dstPort = t.dstPort) := by
  have hzero : e.toBe32 Ipv4Addr.unspecified.toU32 = 0 := by cases e <;> rfl
  have hinj : ∀ ip : Ipv4Addr, e.toBe32 ip.toU32 = 0 ↔ ip = .unspecified := by
    intro ip
    constructor
    · intro h
      exact SessionKey.ofIp_inj e (congrArg SessionKey.mk (h.trans hzero.symm))
    · rintro rfl
      exact hzero
  rw [sdfMatches_iff]
  cases hf : pdr.sdfFilter with
  | none => simp [pdrValue, filterOf, hf]
  | some f => simp only [pdrValue, filterOf, hf, Option.map_some, Option.getD_some, ne_eq, hinj]

/-- What a PDR matches, one that covers it matches too. -/
theorem Covers.sdfMatches {q p : ParsedPDR} (h : Covers q p) {t : FiveTuple}
    (hp : sdfMatches (pdrValue e ueIp p) t = true) : sdfMatches (pdrValue e ueIp q) t = true := by
  rw [sdfMatches_pdrValue] at hp ⊢
  obtain ⟨h₁, h₂, h₃, h₄, h₅⟩ := hp
  refine ⟨fun hne => ?_, fun hne => ?_, fun hne => ?_, fun hne => ?_, fun hne => ?_⟩
  · have heq := h.proto.resolve_left hne
    rw [heq] at hne ⊢
    exact h₁ hne
  · have heq := h.srcIp.resolve_left hne
    rw [heq] at hne ⊢
    exact h₂ hne
  · have heq := h.dstIp.resolve_left hne
    rw [heq] at hne ⊢
    exact h₃ hne
  · have heq := h.srcPort.resolve_left hne
    rw [heq] at hne ⊢
    exact h₄ hne
  · have heq := h.dstPort.resolve_left hne
    rw [heq] at hne ⊢
    exact h₅ hne

/-- A value for one field: that of the filter if it compares the field, else one that none of the
others compares it with. -/
theorem exists_field {α β : Type} [DecidableEq α] (zero own : α) {others : List α} (raw : α → β)
    {values : ℕ → α} (hvalues : ∀ i < 9, ∀ j < 9, values i = values j → i = j)
    (hraw : Function.Injective raw) (hlen : others.length < 9) :
    ∃ v : β, (own ≠ zero → raw own = v) ∧
      ∀ other ∈ others, other ≠ zero → other ≠ own → raw other ≠ v := by
  by_cases hown : own = zero
  · obtain ⟨i, -, hi⟩ := exists_notMem_of_length_lt hvalues hlen
    refine ⟨raw (values i), fun h => absurd hown h, fun other hmem _ _ heq => hi ?_⟩
    rwa [← hraw heq]
  · exact ⟨raw own, fun _ => rfl, fun other _ _ hne heq => hne (hraw heq)⟩

/-- **Filters that do not cover another leave it a five-tuple**, if there are at most eight. -/
theorem exists_unhidden (e : Endian) (ueIp : Ipv4Addr) {p : ParsedPDR} {qs : List ParsedPDR}
    (hlen : qs.length < 9) (h : ∀ q ∈ qs, ¬ Covers q p) :
    ∃ t, sdfMatches (pdrValue e ueIp p) t = true ∧
      ∀ q ∈ qs, sdfMatches (pdrValue e ueIp q) t = false := by
  have hbytes : ∀ i < 9, ∀ j < 9, UInt8.ofNat i = UInt8.ofNat j → i = j := by decide
  have hports : ∀ i < 9, ∀ j < 9, UInt16.ofNat i = UInt16.ofNat j → i = j := by decide
  have haddrs : ∀ i < 9, ∀ j < 9,
      (⟨0, 0, 0, UInt8.ofNat i⟩ : Ipv4Addr) = ⟨0, 0, 0, UInt8.ofNat j⟩ → i = j := by decide
  have hraw : Function.Injective fun ip : Ipv4Addr => e.toBe32 ip.toU32 :=
    fun _ _ heq => SessionKey.ofIp_inj e (congrArg SessionKey.mk heq)
  have hmap : ∀ {α : Type} (f : SdfFilter → α), (qs.map fun q => f (filterOf q)).length < 9 :=
    fun f => by rwa [List.length_map]
  obtain ⟨proto, hproto, hproto'⟩ := exists_field 0 (filterOf p).proto id hbytes
    Function.injective_id (hmap (·.proto))
  obtain ⟨srcIp, hsrc, hsrc'⟩ := exists_field .unspecified (filterOf p).srcIp _
    haddrs hraw (hmap (·.srcIp))
  obtain ⟨dstIp, hdst, hdst'⟩ := exists_field .unspecified (filterOf p).dstIp _
    haddrs hraw (hmap (·.dstIp))
  obtain ⟨srcPort, hsport, hsport'⟩ := exists_field 0 (filterOf p).srcPort id
    hports Function.injective_id (hmap (·.srcPort))
  obtain ⟨dstPort, hdport, hdport'⟩ := exists_field 0 (filterOf p).dstPort id
    hports Function.injective_id (hmap (·.dstPort))
  refine ⟨⟨proto, srcIp, dstIp, srcPort, dstPort⟩,
    (sdfMatches_pdrValue p _).mpr ⟨hproto, hsrc, hdst, hsport, hdport⟩, fun q hq => ?_⟩
  by_contra hmatch
  obtain ⟨h₁, h₂, h₃, h₄, h₅⟩ := (sdfMatches_pdrValue q _).mp (Bool.of_not_eq_false hmatch)
  refine h q hq ⟨?_, ?_, ?_, ?_, ?_⟩
  · by_contra hnot
    obtain ⟨hzero, hown⟩ := not_or.mp hnot
    exact hproto' _ (List.mem_map_of_mem hq) hzero hown (h₁ hzero)
  · by_contra hnot
    obtain ⟨hzero, hown⟩ := not_or.mp hnot
    exact hsrc' _ (List.mem_map_of_mem hq) hzero hown (h₂ hzero)
  · by_contra hnot
    obtain ⟨hzero, hown⟩ := not_or.mp hnot
    exact hdst' _ (List.mem_map_of_mem hq) hzero hown (h₃ hzero)
  · by_contra hnot
    obtain ⟨hzero, hown⟩ := not_or.mp hnot
    exact hsport' _ (List.mem_map_of_mem hq) hzero hown (h₄ hzero)
  · by_contra hnot
    obtain ⟨hzero, hown⟩ := not_or.mp hnot
    exact hdport' _ (List.mem_map_of_mem hq) hzero hown (h₅ hzero)

end Hidden

/-! ### The rules of an accepted establishment -/

/-- The FAR of a PDR is there: the request has one that its key stands for, or FAR_MAP had one under
that key. -/
def HasFar (w : World) (req : SessionEstablishmentReq) (pdr : ParsedPDR) : Prop :=
  (∃ far ∈ req.createFars, SameId far.farId (pdr.farId.getD 0)) ∨
    (w.maps.farMap.lookup (.new w.srv.nextSeid (pdr.farId.getD 0))).isSome

instance (w : World) (req : SessionEstablishmentReq) (pdr : ParsedPDR) :
    Decidable (HasFar w req pdr) := inferInstanceAs (Decidable (_ ∨ _))

/-- `q` is of the access side too and lets through whatever `p` does. -/
def Hides (q p : ParsedPDR) : Prop := q.sourceInterface = interfaceAccess ∧ Covers q p

instance (q p : ParsedPDR) : Decidable (Hides q p) := inferInstanceAs (Decidable (_ ∧ _))

/-- Every PDR from the access side has a precedence that is not the greatest, and a FAR, and none
that is preferred to it hides it: one of a lesser precedence, or of the same and before it in the
request. -/
structure Unhidden (w : World) (req : SessionEstablishmentReq) : Prop where
  found : ∀ pdr ∈ req.createPdrs, pdr.sourceInterface = interfaceAccess →
    pdr.precedence < 0xFFFFFFFF ∧ HasFar w req pdr
  apart : req.createPdrs.Pairwise fun p q =>
    (q.sourceInterface = interfaceAccess → p.precedence ≤ q.precedence → ¬ Hides p q) ∧
      (p.sourceInterface = interfaceAccess → q.precedence < p.precedence → ¬ Hides q p)

instance (w : World) (req : SessionEstablishmentReq) : Decidable (Unhidden w req) :=
  decidable_of_iff ((∀ pdr ∈ req.createPdrs, pdr.sourceInterface = interfaceAccess →
      pdr.precedence < 0xFFFFFFFF ∧ HasFar w req pdr) ∧
    req.createPdrs.Pairwise fun p q =>
      (q.sourceInterface = interfaceAccess → p.precedence ≤ q.precedence → ¬ Hides p q) ∧
        (p.sourceInterface = interfaceAccess → q.precedence < p.precedence → ¬ Hides q p))
    ⟨fun ⟨hfound, hapart⟩ => ⟨hfound, hapart⟩, fun h => ⟨h.found, h.apart⟩⟩

/-- Of PDRs with different ids, a list of the first eight ids has all of them only if there are no
others. -/
theorem length_le_of_listed {pdrs : List ParsedPDR} (hnd : (pdrs.map (·.pdrId)).Nodup)
    (h : ∀ pdr ∈ pdrs, pdr.pdrId.toUInt32 ∈
      (pdrs.take maxPdrPerSession).map fun pdr => pdr.pdrId.toUInt32) :
    pdrs.length ≤ maxPdrPerSession := by
  by_contra hlt
  have hsplit : pdrs.take maxPdrPerSession ++ pdrs.drop maxPdrPerSession = pdrs :=
    List.take_append_drop ..
  obtain ⟨pdr, hmem⟩ : ∃ pdr, pdr ∈ pdrs.drop maxPdrPerSession :=
    List.exists_mem_of_length_pos (by rw [List.length_drop]; omega)
  obtain ⟨first, hfirst, hid⟩ := List.mem_map.mp (h pdr (List.mem_of_mem_drop hmem))
  rw [← hsplit, List.map_append, List.nodup_append] at hnd
  exact hnd.2.2 _ (List.mem_map_of_mem hfirst) _ (List.mem_map_of_mem hmem)
    (UInt16.toUInt32_inj.mp hid)

/-- PDRs with different ids are listed in one way. -/
theorem split_unique {pdrs pre post : List ParsedPDR} {pdr : ParsedPDR} {pre' post' : List UInt32}
    (hnd : (pdrs.map (·.pdrId)).Nodup) (hsplit : pdrs = pre ++ pdr :: post)
    (h : (pre.map fun pdr => pdr.pdrId.toUInt32) ++
        pdr.pdrId.toUInt32 :: post.map (fun pdr => pdr.pdrId.toUInt32) =
      pre' ++ pdr.pdrId.toUInt32 :: post') :
    pre.map (fun pdr => pdr.pdrId.toUInt32) = pre' ∧
      post.map (fun pdr => pdr.pdrId.toUInt32) = post' := by
  have hids : ∀ q ∈ pre ++ post, pdr.pdrId.toUInt32 ≠ q.pdrId.toUInt32 := by
    intro q hq heq
    rw [hsplit, List.map_append, List.map_cons, List.nodup_middle, ← List.map_append,
      List.nodup_cons] at hnd
    exact hnd.1 (List.mem_map.mpr ⟨q, hq, (UInt16.toUInt32_inj.mp heq).symm⟩)
  have hpre : pdr.pdrId.toUInt32 ∉ pre.map fun pdr => pdr.pdrId.toUInt32 := by
    intro hmem
    obtain ⟨q, hq, heq⟩ := List.mem_map.mp hmem
    exact hids q (List.mem_append_left _ hq) heq.symm
  have hpost : pdr.pdrId.toUInt32 ∉ post.map fun pdr => pdr.pdrId.toUInt32 := by
    intro hmem
    obtain ⟨q, hq, heq⟩ := List.mem_map.mp hmem
    exact hids q (List.mem_append_right _ hq) heq.symm
  obtain ⟨hpre', -, hpost'⟩ := (List.append_cons_inj_of_notMem hpre hpost).mp h
  exact ⟨hpre', hpost'⟩

section Established

variable {e : Endian} {env : Env} {now : Instant} {ueIp : Ipv4Addr} {gnbInfo : OuterHeaderCreation}
  {req : SessionEstablishmentReq} {w w' : World}

/-- What the walk of `select_far` finds under the id of a PDR of the request. -/
theorem applicable_written
    (h : install (installSteps e env w.srv.n3Addr w.srv.nextSeid w.srv.nextTeid ueIp gnbInfo req)
      (allocated (touched now w)) = (true, w'))
    (hnd : (req.createPdrs.map (·.pdrId)).Nodup) {info : SessionInfo}
    (hseid : info.seid = w.srv.nextSeid) {pdr : ParsedPDR} (hmem : pdr ∈ req.createPdrs)
    (t : FiveTuple) :
    (∀ r, applicable w'.maps info ifaceAccess t pdr.pdrId.toUInt32 = some r →
        r.1 = pdrValue e ueIp pdr) ∧
      ((applicable w'.maps info ifaceAccess t pdr.pdrId.toUInt32).isSome ↔
        pdr.sourceInterface = ifaceAccess ∧ sdfMatches (pdrValue e ueIp pdr) t = true ∧
          HasFar w req pdr) := by
  obtain ⟨-, hpdr, hfar, -, -⟩ := written h
  have hrow : w'.maps.pdrMap.lookup (.new info.seid pdr.pdrId.toUInt32) =
      some (pdrValue e ueIp pdr) := by
    rw [hseid, hpdr]
    exact lookup_pdrRows hnd hmem _
  have hfound : (w'.maps.farMap.lookup (.new info.seid (pdr.farId.getD 0))).isSome ↔
      HasFar w req pdr := by
    rw [hseid, hfar, foldl_put_eq, lastPut_map_entries, Option.isSome_or, Option.isSome_map,
      Bool.or_eq_true, List.getLast?_isSome, HasFar]
    refine or_congr ?_ Iff.rfl
    simp only [ne_eq, List.filter_eq_nil_iff, decide_eq_true_eq, not_forall, not_not, FarKey.new,
      FarKey.mk.injEq, composeKey_eq_iff, exists_prop]
  simp only [applicable, hrow, Option.bind_some]
  split_ifs with hside
  · refine ⟨fun r hr => ?_, ?_⟩
    · obtain ⟨far, -, rfl⟩ := Option.map_eq_some_iff.mp hr
      rfl
    · rw [Option.isSome_map]
      exact ⟨fun hsome => ⟨hside.1, hside.2, hfound.mp hsome⟩, fun hall => hfound.mpr hall.2.2⟩
  · constructor
    · intro r hr
      cases hr
    · exact iff_of_false (fun hsome => Bool.noConfusion hsome) fun hall => hside ⟨hall.1, hall.2.1⟩

/-- **Which PDRs of a request can be matched**, if there is room for all. -/
theorem matchable_written_iff
    (h : install (installSteps e env w.srv.n3Addr w.srv.nextSeid w.srv.nextTeid ueIp gnbInfo req)
      (allocated (touched now w)) = (true, w'))
    (hnd : (req.createPdrs.map (·.pdrId)).Nodup) (hle : req.createPdrs.length ≤ maxPdrPerSession)
    {pre post : List ParsedPDR} {pdr : ParsedPDR} (hsplit : req.createPdrs = pre ++ pdr :: post) :
    Matchable e w'.maps ueIp pdr.pdrId ↔
      pdr.sourceInterface = interfaceAccess ∧ pdr.precedence < 0xFFFFFFFF ∧ HasFar w req pdr ∧
        (∀ q ∈ pre, HasFar w req q → q.precedence ≤ pdr.precedence → ¬ Hides q pdr) ∧
        ∀ q ∈ post, HasFar w req q → q.precedence < pdr.precedence → ¬ Hides q pdr := by
  have hsession : w'.maps.sessionMap.lookup (.ofIp e ueIp) = some (sessionInfo e w.srv.n3Addr
      w.srv.nextSeid w.srv.nextTeid gnbInfo req.createPdrs) := by
    rw [(written h).1]
    exact if_pos rfl
  set info := sessionInfo e w.srv.n3Addr w.srv.nextSeid w.srv.nextTeid gnbInfo req.createPdrs
  have hlisted : info.listed = (pre.map fun pdr => pdr.pdrId.toUInt32) ++
      pdr.pdrId.toUInt32 :: post.map fun pdr => pdr.pdrId.toUInt32 := by
    rw [listed_sessionInfo, List.take_of_length_le hle, hsplit, List.map_append, List.map_cons]
  have happ : ∀ q ∈ req.createPdrs, ∀ t,
      (∀ r, applicable w'.maps info ifaceAccess t q.pdrId.toUInt32 = some r →
        r.1 = pdrValue e ueIp q) ∧
      ((applicable w'.maps info ifaceAccess t q.pdrId.toUInt32).isSome ↔
        q.sourceInterface = ifaceAccess ∧ sdfMatches (pdrValue e ueIp q) t = true ∧
          HasFar w req q) :=
    fun q hq => applicable_written h hnd rfl hq
  have hmem : pdr ∈ req.createPdrs := by simp [hsplit]
  have hpre : ∀ q ∈ pre, q ∈ req.createPdrs := fun q hq => by simp [hsplit, hq]
  have hpost : ∀ q ∈ post, q ∈ req.createPdrs := fun q hq => by simp [hsplit, hq]
  constructor
  · rintro ⟨info', pre', post', t, hinfo, hsplit', htaken⟩
    obtain rfl := Option.some.inj (hsession.symm.trans hinfo)
    obtain ⟨rfl, rfl⟩ := split_unique hnd hsplit (hlisted.symm.trans hsplit')
    obtain ⟨r, hr, hmax, hbefore, hbehind⟩ := (taken_iff hlisted).mp htaken
    obtain ⟨haccess, hsdf, hfar⟩ := (happ pdr hmem t).2.mp (Option.isSome_of_eq_some hr)
    have hprec : r.1.precedence = pdr.precedence := by rw [(happ pdr hmem t).1 r hr]; rfl
    -- a PDR that hides it matches the five-tuple too
    have hfound : ∀ q ∈ req.createPdrs, HasFar w req q → Hides q pdr →
        ∃ r', applicable w'.maps info ifaceAccess t q.pdrId.toUInt32 = some r' ∧
          r'.1.precedence = q.precedence := by
      intro q hq hfar' hhides
      obtain ⟨r', hr'⟩ := Option.isSome_iff_exists.mp
        ((happ q hq t).2.mpr ⟨hhides.1, hhides.2.sdfMatches hsdf, hfar'⟩)
      exact ⟨r', hr', by rw [(happ q hq t).1 r' hr']; rfl⟩
    rw [hprec] at hmax hbefore hbehind
    refine ⟨haccess, hmax, hfar, fun q hq hfar' hle' hhides => ?_, fun q hq hfar' hlt hhides => ?_⟩
    · obtain ⟨r', hr', hprec'⟩ := hfound q (hpre q hq) hfar' hhides
      have hlt := hbefore _ (List.mem_map_of_mem hq) r' hr'
      rw [hprec'] at hlt
      exact absurd hle' (not_le.mpr hlt)
    · obtain ⟨r', hr', hprec'⟩ := hfound q (hpost q hq) hfar' hhides
      have hle' := hbehind _ (List.mem_map_of_mem hq) r' hr'
      rw [hprec'] at hle'
      exact absurd hlt (not_lt.mpr hle')
  · rintro ⟨haccess, hmax, hfar, hbefore, hbehind⟩
    -- those preferred to it, which are fewer than nine, leave it a five-tuple
    set before := pre.filter fun q => HasFar w req q ∧ q.precedence ≤ pdr.precedence ∧
      q.sourceInterface = interfaceAccess
    set behind := post.filter fun q => HasFar w req q ∧ q.precedence < pdr.precedence ∧
      q.sourceInterface = interfaceAccess
    have hlen : (before ++ behind).length < 9 := by
      have hb : before.length ≤ pre.length := List.length_filter_le ..
      have ha : behind.length ≤ post.length := List.length_filter_le ..
      rw [hsplit, List.length_append, List.length_cons, maxPdrPerSession] at hle
      rw [List.length_append]
      omega
    obtain ⟨t, hsdf, hnone⟩ := exists_unhidden e ueIp hlen fun q hq hcovers => by
      rcases List.mem_append.mp hq with hq | hq
      · obtain ⟨hq, hall⟩ := List.mem_filter.mp hq
        obtain ⟨hfar', hle', hside⟩ := of_decide_eq_true hall
        exact hbefore q hq hfar' hle' ⟨hside, hcovers⟩
      · obtain ⟨hq, hall⟩ := List.mem_filter.mp hq
        obtain ⟨hfar', hlt, hside⟩ := of_decide_eq_true hall
        exact hbehind q hq hfar' hlt ⟨hside, hcovers⟩
    obtain ⟨r, hr⟩ := Option.isSome_iff_exists.mp ((happ pdr hmem t).2.mpr ⟨haccess, hsdf, hfar⟩)
    have hprec : r.1.precedence = pdr.precedence := by rw [(happ pdr hmem t).1 r hr]; rfl
    refine ⟨info, _, _, t, hsession, hlisted, (taken_iff hlisted).mpr ⟨r, hr, ?_⟩⟩
    rw [hprec]
    refine ⟨hmax, fun id hid r' hr' => ?_, fun id hid r' hr' => ?_⟩
    · obtain ⟨q, hq, rfl⟩ := List.mem_map.mp hid
      obtain ⟨hside, hsdf', hfar'⟩ := (happ q (hpre q hq) t).2.mp (Option.isSome_of_eq_some hr')
      rw [(happ q (hpre q hq) t).1 r' hr']
      by_contra hnot
      have hin : q ∈ before :=
        List.mem_filter.mpr ⟨hq, decide_eq_true ⟨hfar', not_lt.mp hnot, hside⟩⟩
      rw [hnone q (List.mem_append_left _ hin)] at hsdf'
      cases hsdf'
    · obtain ⟨q, hq, rfl⟩ := List.mem_map.mp hid
      obtain ⟨hside, hsdf', hfar'⟩ := (happ q (hpost q hq) t).2.mp (Option.isSome_of_eq_some hr')
      rw [(happ q (hpost q hq) t).1 r' hr']
      by_contra hnot
      have hin : q ∈ behind :=
        List.mem_filter.mpr ⟨hq, decide_eq_true ⟨hfar', not_le.mp hnot, hside⟩⟩
      rw [hnone q (List.mem_append_right _ hin)] at hsdf'
      cases hsdf'

end Established

/-- A PDR that was written with its listed id is reached. -/
theorem reached_written_iff {e : Endian} {m : Maps} {ueIp : Ipv4Addr} {info : SessionInfo}
    {pdr : ParsedPDR} (hinfo : m.sessionMap.lookup (.ofIp e ueIp) = some info)
    (hrow : m.pdrMap.lookup (.new info.seid pdr.pdrId.toUInt32) = some (pdrValue e ueIp pdr)) :
    Reached e m ueIp pdr ↔ pdr.pdrId.toUInt32 ∈ info.listed := by
  constructor
  · rintro ⟨info', row, hinfo', hid, -⟩
    obtain rfl := Option.some.inj (hinfo.symm.trans hinfo')
    exact hid
  · intro hid
    exact ⟨info, _, hinfo, hid, hrow, rowOfPdr e ueIp pdr⟩

/-- **When an accepted establishment installs its rules**: there is room for its PDRs, and none of
those from the access side is hidden. -/
theorem installsAll_iff (host : Host) (env : Env) (now : Instant) (data : Bytes)
    (src : SocketAddr) (w : World) (req : SessionEstablishmentReq) (assoc : SmfAssociation)
    (ueIp : Ipv4Addr) (r : Bytes)
    (hest : establishes env (received data) src w = some (req, assoc))
    (hue : req.createPdrs.findSome? (·.ueIp) = some ueIp)
    (hok : (receive host env now data src w).1 = .ok r)
    (hnd : (req.createPdrs.map (·.pdrId)).Nodup) :
    InstallsAll host.endian w (receive host env now data src w).2.maps ueIp req ↔
      req.createPdrs.length ≤ maxPdrPerSession ∧ Unhidden w req := by
  obtain ⟨ueIp', gnbInfo, w', hue', -, hinst, hw⟩ := receive_established hest hok
  obtain rfl : ueIp' = ueIp := Option.some.inj (hue'.symm.trans hue)
  obtain ⟨hsession, hpdr, -, -, -⟩ := written hinst
  have hmaps : (receive host env now data src w).2.maps = w'.maps := by rw [hw]; rfl
  have hrow : w'.maps.sessionMap.lookup (.ofIp host.endian ueIp') = some (sessionInfo host.endian
      w.srv.n3Addr w.srv.nextSeid w.srv.nextTeid gnbInfo req.createPdrs) := by
    rw [hsession]
    exact if_pos rfl
  have hlisted := listed_sessionInfo host.endian w.srv.n3Addr w.srv.nextSeid w.srv.nextTeid gnbInfo
    req.createPdrs
  have hreached : ∀ pdr ∈ req.createPdrs, Reached host.endian w'.maps ueIp' pdr ↔
      pdr.pdrId.toUInt32 ∈
        (req.createPdrs.take maxPdrPerSession).map fun pdr => pdr.pdrId.toUInt32 := by
    intro pdr hmem
    rw [← hlisted]
    refine reached_written_iff hrow ?_
    rw [hpdr]
    exact lookup_pdrRows hnd hmem _
  -- the Created PDRs are those of the access side
  have hcreated : ∀ pdr ∈ req.createPdrs, pdr.sourceInterface = interfaceAccess →
      ∃ created ∈ createdPdrs w.srv.n3Addr w.srv.nextTeid req.createPdrs, created.1 = pdr.pdrId :=
    fun pdr hmem haccess => ⟨_, List.mem_map_of_mem (List.mem_filter.mpr
      ⟨hmem, decide_eq_true haccess⟩), rfl⟩
  rw [hmaps]
  constructor
  · intro h
    have hle : req.createPdrs.length ≤ maxPdrPerSession :=
      length_le_of_listed hnd fun pdr hmem => (hreached pdr hmem).mp (h.reached pdr hmem)
    have hmatch : ∀ pre pdr post, req.createPdrs = pre ++ pdr :: post →
        pdr.sourceInterface = interfaceAccess → pdr.precedence < 0xFFFFFFFF ∧ HasFar w req pdr ∧
          (∀ q ∈ pre, HasFar w req q → q.precedence ≤ pdr.precedence → ¬ Hides q pdr) ∧
          ∀ q ∈ post, HasFar w req q → q.precedence < pdr.precedence → ¬ Hides q pdr := by
      intro pre pdr post hsplit haccess
      obtain ⟨created, hmem, hid⟩ := hcreated pdr (by simp [hsplit]) haccess
      have hmatchable := h.acknowledged created hmem
      rw [hid] at hmatchable
      exact ((matchable_written_iff hinst hnd hle hsplit).mp hmatchable).2
    have hfound : ∀ pdr ∈ req.createPdrs, pdr.sourceInterface = interfaceAccess →
        pdr.precedence < 0xFFFFFFFF ∧ HasFar w req pdr := by
      intro pdr hmem haccess
      obtain ⟨pre, post, hsplit⟩ := List.append_of_mem hmem
      obtain ⟨hmax, hfar, -⟩ := hmatch pre pdr post hsplit haccess
      exact ⟨hmax, hfar⟩
    refine ⟨hle, hfound, pairwise_and_iff.mpr fun pre pdr post hsplit => ?_⟩
    constructor
    · intro q hq haccess hprec hhides
      have hfar := (hfound q (by simp [hsplit, hq]) hhides.1).2
      exact (hmatch pre pdr post hsplit haccess).2.2.1 q hq hfar hprec hhides
    · intro q hq haccess hprec hhides
      have hfar := (hfound q (by simp [hsplit, hq]) hhides.1).2
      exact (hmatch pre pdr post hsplit haccess).2.2.2 q hq hfar hprec hhides
  · rintro ⟨hle, hunhidden⟩
    rw [List.take_of_length_le hle] at hreached
    refine ⟨fun pdr hmem => (hreached pdr hmem).mpr (List.mem_map_of_mem hmem), ?_⟩
    intro created hcreated'
    obtain ⟨pdr, hside, rfl⟩ := List.mem_map.mp hcreated'
    obtain ⟨hmem, haccess⟩ := List.mem_filter.mp hside
    obtain ⟨pre, post, hsplit⟩ := List.append_of_mem hmem
    obtain ⟨hmax, hfar⟩ := hunhidden.found pdr hmem (of_decide_eq_true haccess)
    obtain ⟨hpre, hpost⟩ := pairwise_and_iff.mp hunhidden.apart pre pdr post hsplit
    exact (matchable_written_iff hinst hnd hle hsplit).mpr ⟨of_decide_eq_true haccess, hmax, hfar,
      fun q hq _ => hpre q hq (of_decide_eq_true haccess),
      fun q hq _ => hpost q hq (of_decide_eq_true haccess)⟩

section Sim

open SmfSim

/-- The three PDRs of a simulator's session, of which the second lets through what the first does
and comes after it. -/
theorem installsAll_iff_first :
    ∃ req assoc, establishes env (received (sessionEstablishment 1 smfA ue1 gnb 0x80000001))
        (peer smfA) (Audit.after host boot [setup smfA 1]).world = some (req, assoc) ∧
      InstallsAll .little (Audit.after host boot [setup smfA 1]).world
        (receive host env 0 (sessionEstablishment 1 smfA ue1 gnb 0x80000001) (peer smfA)
          (Audit.after host boot [setup smfA 1]).world).2.maps ue1 req := by
  set w := (Audit.after host boot [setup smfA 1]).world
  set data := sessionEstablishment 1 smfA ue1 gnb 0x80000001
  obtain ⟨⟨req, assoc⟩, hest⟩ : ∃ p, establishes env (received data) (peer smfA) w = some p :=
    Option.isSome_iff_exists.mp (by decide +kernel)
  obtain ⟨r, hok⟩ : ∃ r, (receive host env 0 data (peer smfA) w).1 = .ok r :=
    ok_of_isSome (by decide +kernel)
  have hreq : ∀ p ∈ establishes env (received data) (peer smfA) w,
      p.1.createPdrs.findSome? (·.ueIp) = some ue1 ∧ (p.1.createPdrs.map (·.pdrId)).Nodup ∧
        p.1.createPdrs.length ≤ maxPdrPerSession ∧ Unhidden w p.1 := by decide +kernel
  obtain ⟨hue, hnd, hle, hunhidden⟩ := hreq _ hest
  exact ⟨req, assoc, hest, (installsAll_iff host env 0 data (peer smfA) w req assoc ue1 r hest hue
    hok hnd).mpr ⟨hle, hunhidden⟩⟩

/-- An establishment with nine PDRs for uplink packets, each for a port of its own. -/
def nineRules : Bytes :=
  establishmentWith 1 smfA
    ([1, 2, 3, 4, 5, 6, 7, 8, 9].map fun pdrId =>
      { anyPacket pdrId 100 interfaceAccess ue1 1 with
        sdfFilter := some ⟨6, .unspecified, .unspecified, 0, pdrId⟩ })
    [toGnb 1 0x1111] []

/-- The ninth is acknowledged and not reached, though nothing hides it. -/
theorem not_installsAll_nineRules :
    ∃ req assoc, establishes env (received nineRules) (peer smfA)
        (Audit.after host boot [setup smfA 1]).world = some (req, assoc) ∧
      req.createPdrs.findSome? (·.ueIp) = some ue1 ∧ (req.createPdrs.map (·.pdrId)).Nodup ∧
      Unhidden (Audit.after host boot [setup smfA 1]).world req ∧
      (∃ r, (receive host env 0 nineRules (peer smfA)
        (Audit.after host boot [setup smfA 1]).world).1 = .ok r) ∧
      ¬ InstallsAll .little (Audit.after host boot [setup smfA 1]).world
        (receive host env 0 nineRules (peer smfA)
          (Audit.after host boot [setup smfA 1]).world).2.maps ue1 req := by
  set w := (Audit.after host boot [setup smfA 1]).world
  obtain ⟨⟨req, assoc⟩, hest⟩ : ∃ p, establishes env (received nineRules) (peer smfA) w = some p :=
    Option.isSome_iff_exists.mp (by decide +kernel)
  have hreq : ∀ p ∈ establishes env (received nineRules) (peer smfA) w,
      p.1.createPdrs.findSome? (·.ueIp) = some ue1 ∧ (p.1.createPdrs.map (·.pdrId)).Nodup ∧
        Unhidden w p.1 ∧ ∃ created ∈ createdPdrs w.srv.n3Addr w.srv.nextTeid p.1.createPdrs,
          created.1 = 9 := by decide +kernel
  obtain ⟨hue, hnd, hunhidden, created, hcreated, hnine⟩ := hreq _ hest
  refine ⟨req, assoc, hest, hue, hnd, hunhidden, ok_of_isSome (by decide +kernel), fun h => ?_⟩
  obtain ⟨info, pre, post, t, hinfo, hsplit, -⟩ := h.acknowledged created hcreated
  have hlisted : ((receive host env 0 nineRules (peer smfA) w).2.maps.sessionMap.lookup
      (.ofIp .little ue1)).map (·.listed) = some [1, 2, 3, 4, 5, 6, 7, 8] := by decide +kernel
  rw [hinfo, Option.map_some, Option.some.injEq] at hlisted
  have hid : created.1.toUInt32 ∈ info.listed := by simp [hsplit]
  rw [hlisted, hnine] at hid
  exact absurd hid (by decide)

end Sim

end UpfEdge
