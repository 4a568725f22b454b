import UpfEdge.Pfcp.Wire

/-!
# Requests are read as they were built

The writers of `builder.rs` against the readers of `ie.rs` and `messages.rs`.  A `MsgBuilder` is
used by a list of calls in any order (`RequestCall`), each of which appends one IE; a rule's IE is a
list of IEs again, a PDR's holds a third level.  A grouped parser folds over what `iterIes` gives it
and looks only at types and values, so on octets that were written as a list of IEs it is a fold
over that list (`foldlM_iterIes`), and every field is settled by the lemma of its own IE.

`request_roundtrip` puts the levels together: per kind and in the order of the calls, a decoder
returns exactly what the calls were given.
-/

namespace UpfEdge.Pfcp

open Lib

/-! ### Fields -/

theorem field16_u16ToBe (x : UInt16) : field16 (u16ToBe x) = some x := by
  obtain ⟨b₀, b₁, hb⟩ : ∃ b₀ b₁, u16ToBe x = [b₀, b₁] := ⟨_, _, rfl⟩
  have hx : u16OfBe [b₀, b₁] = x := by rw [← hb, u16OfBe_u16ToBe]
  simp [field16, hb, hx]

theorem field32_u32ToBe (x : UInt32) : field32 (u32ToBe x) = some x := by
  obtain ⟨b₀, b₁, b₂, b₃, hb⟩ : ∃ b₀ b₁ b₂ b₃, u32ToBe x = [b₀, b₁, b₂, b₃] := ⟨_, _, _, _, rfl⟩
  have hx : u32OfBe [b₀, b₁, b₂, b₃] = x := by rw [← hb, u32OfBe_u32ToBe]
  simp [field32, hb, hx]

theorem parseNodeId_octets (addr : Ipv4Addr) : parseNodeId (0x00 :: addr.octets) = .ok addr := by
  simp [parseNodeId, Ipv4Addr.octets]

theorem parseFseid_octets (seid : UInt64) (addr : Ipv4Addr) :
    parseFseid (0x02 :: (u64ToBe seid ++ addr.octets)) = .ok (seid, addr) := by
  obtain ⟨b₀, b₁, b₂, b₃, b₄, b₅, b₆, b₇, hb⟩ := u64ToBe_eq seid
  have hseid : u64OfBe [b₀, b₁, b₂, b₃, b₄, b₅, b₆, b₇] = seid := by rw [← hb, u64OfBe_u64ToBe]
  simp [parseFseid, hb, hseid, Ipv4Addr.octets]

theorem parseUeIpAddress_octets (addr : Ipv4Addr) :
    parseUeIpAddress (0x02 :: addr.octets) = .ok addr := by
  simp [parseUeIpAddress, Ipv4Addr.octets]

theorem parseSdfFilter_bytes (sdf : SdfFilter) : parseSdfFilter (sdfFilterBytes sdf) = .ok sdf := by
  obtain ⟨s₀, s₁, hs⟩ : ∃ b₀ b₁, u16ToBe sdf.srcPort = [b₀, b₁] := ⟨_, _, rfl⟩
  obtain ⟨d₀, d₁, hd⟩ : ∃ b₀ b₁, u16ToBe sdf.dstPort = [b₀, b₁] := ⟨_, _, rfl⟩
  have hsrc : u16OfBe [s₀, s₁] = sdf.srcPort := by rw [← hs, u16OfBe_u16ToBe]
  have hdst : u16OfBe [d₀, d₁] = sdf.dstPort := by rw [← hd, u16OfBe_u16ToBe]
  simp [parseSdfFilter, sdfFilterBytes, hs, hd, hsrc, hdst, Ipv4Addr.octets]

theorem parseOuterHeaderCreation_bytes (ohc : OuterHeaderCreation) :
    parseOuterHeaderCreation (outerHeaderCreationBytes ohc) = .ok { ohc with port := 2152 } := by
  obtain ⟨b₀, b₁, b₂, b₃, hb⟩ : ∃ b₀ b₁ b₂ b₃, u32ToBe ohc.teid = [b₀, b₁, b₂, b₃] :=
    ⟨_, _, _, _, rfl⟩
  have hteid : u32OfBe [b₀, b₁, b₂, b₃] = ohc.teid := by rw [← hb, u32OfBe_u32ToBe]
  simp [parseOuterHeaderCreation, outerHeaderCreationBytes, hb, hteid, Ipv4Addr.octets]

theorem parseVolumeThreshold_total (total : UInt64) :
    parseVolumeThreshold (volumeThresholdTovol :: u64ToBe total) = .ok (some total) := by
  obtain ⟨b₀, b₁, b₂, b₃, b₄, b₅, b₆, b₇, hb⟩ := u64ToBe_eq total
  have htotal : u64OfBe [b₀, b₁, b₂, b₃, b₄, b₅, b₆, b₇] = total := by rw [← hb, u64OfBe_u64ToBe]
  simp [parseVolumeThreshold, hb, htotal, volumeThresholdTovol]

/-- An interface number below 16 keeps its value under the mask. -/
theorem and_0x0F {b : UInt8} (h : b < 16) : b &&& 0x0F = b := by
  apply UInt8.toNat_inj.mp
  have hb : b.toNat < 16 := h
  rw [UInt8.toNat_and]
  exact (Nat.and_two_pow_sub_one_eq_mod b.toNat 4).trans (Nat.mod_eq_of_lt hb)

/-! ### Grouped IEs -/

/-- A step of a grouped parser, at an IE of which only the type and the value are known. -/
def onPair {σ : Type} (step : σ → RawIE → Except PfcpError σ) (s : σ) (ie : UInt16 × Bytes) :
    Except PfcpError σ :=
  step s (.mk ie.1 0 ie.2 [])

/-- A fold that looks only at types and values is, on octets written as a list of IEs, a fold over
that list. -/
theorem foldlM_iterIes {σ : Type} {step : σ → RawIE → Except PfcpError σ}
    (hstep : ∀ s t l v sub, step s (.mk t l v sub) = step s (.mk t 0 v [])) :
    ∀ {ies : List (UInt16 × Bytes)}, (∀ ie ∈ ies, ie.2.length < 65536) → ∀ s : σ,
      (iterIes (ies.flatMap ieBytes)).foldlM step s =
        ies.foldlM (onPair step) s
  | [], _, s => by
    rw [List.flatMap_nil, iterIes]
    rfl
  | (t, v) :: ies, h, s => by
    obtain ⟨sub, heq⟩ := iterIes_ieBytes (t := t) (h _ (List.mem_cons_self ..))
      (ies.flatMap ieBytes)
    rw [List.flatMap_cons, heq, List.foldlM_cons, List.foldlM_cons, hstep]
    congr 1
    funext s'
    exact foldlM_iterIes hstep (fun ie hie => h ie (List.mem_cons_of_mem _ hie)) s'

/-- An IE that is written when its value is there. -/
def optIe (t : UInt16) (value : Option Bytes) : List (UInt16 × Bytes) := (value.map (t, ·)).toList

theorem appendOptIe_eq (buf : Bytes) (t : UInt16) (value : Option Bytes) :
    appendOptIe buf t value = buf ++ (optIe t value).flatMap ieBytes := by
  cases value with
  | none => simp [appendOptIe, optIe]
  | some v => simp [appendOptIe, optIe, appendIe_eq]

theorem length_of_mem_optIe {t : UInt16} {value : Option Bytes} {n : ℕ}
    (h : ∀ v, value = some v → v.length < n) : ∀ ie ∈ optIe t value, ie.2.length < n := by
  intro ie hie
  cases value with
  | none => simp [optIe] at hie
  | some v =>
    obtain rfl : ie = (t, v) := by simpa [optIe] using hie
    exact h v rfl

theorem length_optIe_le (t : UInt16) (value : Option Bytes) : (optIe t value).length ≤ 1 := by
  cases value <;> simp [optIe]

/-- A bounded number of short IEs is short. -/
theorem length_flatMap_ieBytes {n : ℕ} : ∀ {ies : List (UInt16 × Bytes)},
    (∀ ie ∈ ies, ie.2.length < n) → (ies.flatMap ieBytes).length ≤ ies.length * (3 + n)
  | [], _ => by simp
  | ie :: ies, h => by
    have hie := h ie (List.mem_cons_self ..)
    have hies := length_flatMap_ieBytes fun ie' hie' => h ie' (List.mem_cons_of_mem _ hie')
    have hlen : (ieBytes ie).length = 4 + ie.2.length := by
      simp [ieBytes, u16ToBe, length_bytesBe]
      omega
    rw [List.flatMap_cons, List.length_append, List.length_cons, Nat.succ_mul, hlen]
    omega

theorem foldlM_cons_of_ok {σ : Type} {step : σ → RawIE → Except PfcpError σ} {t : UInt16}
    {v : Bytes} {ies : List (UInt16 × Bytes)} {s s' : σ} (h : step s (.mk t 0 v []) = .ok s') :
    ((t, v) :: ies).foldlM (onPair step) s = ies.foldlM (onPair step) s' := by
  rw [List.foldlM_cons, onPair, h]
  rfl

theorem foldlM_append_of_ok {α σ : Type} {f : σ → α → Except PfcpError σ} {l l' : List α} {s s' : σ}
    (h : l.foldlM f s = .ok s') : (l ++ l').foldlM f s = l'.foldlM f s' := by
  rw [List.foldlM_append, h]
  rfl

/-- A step of a fold over an optional IE. -/
theorem foldlM_optIe {σ : Type} {step : σ → RawIE → Except PfcpError σ} {t : UInt16}
    {value : Option Bytes} {s s' : σ} (hnone : value = none → s' = s)
    (hsome : ∀ v, value = some v → step s (.mk t 0 v []) = .ok s') :
    (optIe t value).foldlM (onPair step) s = .ok s' := by
  cases value with
  | none =>
    rw [hnone rfl]
    rfl
  | some v => exact foldlM_cons_of_ok (hsome v rfl)

/-! ### Forwarding parameters and FARs -/

/-- What a FAR is read back as: the UDP port of an Outer Header Creation is not on the wire. -/
def FarParams.parsed (f : FarParams) : ParsedFAR where
  farId := f.farId
  applyAction := f.applyAction
  destInterface := some f.destInterface
  outerHeaderCreation := f.outerHeaderCreation.map fun ohc => { ohc with port := 2152 }

def forwardingIes (f : FarParams) : List (UInt16 × Bytes) :=
  (pfcpIeDestinationInterface, [f.destInterface]) ::
    optIe pfcpIeOuterHeaderCreation (f.outerHeaderCreation.map outerHeaderCreationBytes)

def farIes (forwardingIe : UInt16) (f : FarParams) : List (UInt16 × Bytes) :=
  [(pfcpIeFarId, u32ToBe f.farId), (pfcpIeApplyAction, [f.applyAction]),
    (forwardingIe, (forwardingIes f).flatMap ieBytes)]

theorem farBytes_eq (forwardingIe : UInt16) (f : FarParams) :
    farBytes forwardingIe f = (farIes forwardingIe f).flatMap ieBytes := by
  simp [farBytes, farIes, forwardingIes, appendIe_eq, appendOptIe_eq]

theorem length_outerHeaderCreationBytes (ohc : OuterHeaderCreation) :
    (outerHeaderCreationBytes ohc).length = 10 := by
  simp [outerHeaderCreationBytes, u32ToBe, length_bytesBe, Ipv4Addr.octets]

theorem forwardingIes_short (f : FarParams) : ∀ ie ∈ forwardingIes f, ie.2.length < 11 := by
  intro ie hie
  rcases List.mem_cons.mp hie with rfl | hie
  · simp
  · refine length_of_mem_optIe (fun v hv => ?_) ie hie
    obtain ⟨ohc, -, rfl⟩ := Option.map_eq_some_iff.mp hv
    rw [length_outerHeaderCreationBytes]
    omega

theorem parseForwardingParams_forwardingIes {f : FarParams} (hif : f.destInterface < 16)
    (far : ParsedFAR) (hfar : far.outerHeaderCreation = none) :
    parseForwardingParams ((forwardingIes f).flatMap ieBytes) far =
      .ok { far with destInterface := some f.destInterface
                     outerHeaderCreation := f.parsed.outerHeaderCreation } := by
  have hshort : ∀ ie ∈ forwardingIes f, ie.2.length < 65536 := fun ie hie =>
    (forwardingIes_short f ie hie).trans (by decide)
  rw [parseForwardingParams, foldlM_iterIes (fun _ _ _ _ _ => rfl) hshort, forwardingIes]
  have hdest : parseForwardingParamsIe far (.mk pfcpIeDestinationInterface 0 [f.destInterface] []) =
      .ok { far with destInterface := some f.destInterface } := by
    simp [parseForwardingParamsIe, RawIE.ieType, RawIE.value, and_0x0F hif]
    rfl
  refine (foldlM_cons_of_ok hdest).trans ?_
  refine foldlM_optIe (fun hv => ?_) fun v hv => ?_
  · rw [Option.map_eq_none_iff] at hv
    simp [FarParams.parsed, hv, hfar]
  · obtain ⟨ohc, hohc, rfl⟩ := Option.map_eq_some_iff.mp hv
    have hne : pfcpIeOuterHeaderCreation ≠ pfcpIeDestinationInterface := by decide
    simp [parseForwardingParamsIe, RawIE.ieType, RawIE.value, hne, FarParams.parsed, hohc,
      parseOuterHeaderCreation_bytes]

theorem farIes_short {forwardingIe : UInt16} (f : FarParams) :
    ∀ ie ∈ farIes forwardingIe f, ie.2.length < 29 := by
  intro ie hie
  simp only [farIes, List.mem_cons, List.not_mem_nil, or_false] at hie
  rcases hie with rfl | rfl | rfl
  · simp [u32ToBe, length_bytesBe]
  · simp
  · have hlen := length_flatMap_ieBytes (forwardingIes_short f)
    have hopt := length_optIe_le pfcpIeOuterHeaderCreation
      (f.outerHeaderCreation.map outerHeaderCreationBytes)
    have hcount : (forwardingIes f).length ≤ 2 := by
      rw [forwardingIes, List.length_cons]
      omega
    simp only
    omega

/-- A FAR is read back, under either type of its forwarding parameters. -/
theorem foldlM_farBytes {forwardingIe : UInt16} (h1 : forwardingIe ≠ pfcpIeFarId)
    (h2 : forwardingIe ≠ pfcpIeApplyAction) {f : FarParams} (hif : f.destInterface < 16) :
    (iterIes (farBytes forwardingIe f)).foldlM (parseFarIe forwardingIe) {} = .ok f.parsed := by
  have hid : parseFarIe forwardingIe {} (.mk pfcpIeFarId 0 (u32ToBe f.farId) []) =
      .ok { farId := f.farId } := by
    simp [parseFarIe, RawIE.ieType, RawIE.value, field32_u32ToBe]
    rfl
  have hne : pfcpIeApplyAction ≠ pfcpIeFarId := by decide
  have haction : parseFarIe forwardingIe { farId := f.farId }
      (.mk pfcpIeApplyAction 0 [f.applyAction] []) =
      .ok { farId := f.farId, applyAction := f.applyAction } := by
    simp [parseFarIe, RawIE.ieType, RawIE.value, hne, parseApplyAction]
  have hfwd : parseFarIe forwardingIe { farId := f.farId, applyAction := f.applyAction }
      (.mk forwardingIe 0 ((forwardingIes f).flatMap ieBytes) []) = .ok f.parsed := by
    simp only [parseFarIe, RawIE.ieType, RawIE.value, h1, h2, if_false, if_true]
    exact parseForwardingParams_forwardingIes hif _ rfl
  have hshort : ∀ ie ∈ farIes forwardingIe f, ie.2.length < 65536 := fun ie hie =>
    (farIes_short f ie hie).trans (by decide)
  rw [farBytes_eq, foldlM_iterIes (fun _ _ _ _ _ => rfl) hshort]
  refine (foldlM_cons_of_ok hid).trans ?_
  refine (foldlM_cons_of_ok haction).trans ?_
  exact foldlM_cons_of_ok hfwd

theorem parseCreateFar_bytes {f : FarParams} (hif : f.destInterface < 16) :
    parseCreateFar (farBytes pfcpIeForwardingParameters f) = .ok f.parsed :=
  foldlM_farBytes (by decide) (by decide) hif

theorem parseUpdateFar_bytes {f : FarParams} (hif : f.destInterface < 16) :
    parseUpdateFar (farBytes pfcpIeUpdateForwardingParameters f) = .ok f.parsed :=
  foldlM_farBytes (by decide) (by decide) hif

/-! ### URRs -/

def UrrParams.parsed (u : UrrParams) : ParsedURR where
  urrId := u.urrId
  measurementMethod := u.measurementMethod
  reportingTriggers := u.reportingTriggers
  volumeThresholdTotal := u.volumeThresholdTotal
  measurementPeriod := u.measurementPeriod

def urrIes (u : UrrParams) : List (UInt16 × Bytes) :=
  [(pfcpIeUrrId, u32ToBe u.urrId), (pfcpIeMeasurementMethod, [u.measurementMethod]),
      (pfcpIeReportingTriggers, [u.reportingTriggers, 0x00])] ++
    (optIe pfcpIeVolumeThreshold
        (u.volumeThresholdTotal.map fun total => volumeThresholdTovol :: u64ToBe total) ++
      optIe pfcpIeMeasurementPeriod (u.measurementPeriod.map u32ToBe))

theorem urrBytes_eq (u : UrrParams) : urrBytes u = (urrIes u).flatMap ieBytes := by
  simp [urrBytes, urrIes, appendIe_eq, appendOptIe_eq]

theorem urrIes_short (u : UrrParams) : ∀ ie ∈ urrIes u, ie.2.length < 10 := by
  intro ie hie
  rcases List.mem_append.mp hie with hie | hie
  · simp only [List.mem_cons, List.not_mem_nil, or_false] at hie
    rcases hie with rfl | rfl | rfl
    · simp [u32ToBe, length_bytesBe]
    · simp
    · simp
  · rcases List.mem_append.mp hie with hie | hie
    · refine length_of_mem_optIe (fun v hv => ?_) ie hie
      obtain ⟨total, -, rfl⟩ := Option.map_eq_some_iff.mp hv
      simp [u64ToBe, length_bytesBe]
    · refine length_of_mem_optIe (fun v hv => ?_) ie hie
      obtain ⟨period, -, rfl⟩ := Option.map_eq_some_iff.mp hv
      simp [u32ToBe, length_bytesBe]

theorem parseCreateUrr_bytes (u : UrrParams) : parseCreateUrr (urrBytes u) = .ok u.parsed := by
  have hid : parseCreateUrrIe {} (.mk pfcpIeUrrId 0 (u32ToBe u.urrId) []) =
      .ok { urrId := u.urrId } := by
    simp [parseCreateUrrIe, RawIE.ieType, RawIE.value, field32_u32ToBe]
    rfl
  have hmethod : parseCreateUrrIe { urrId := u.urrId }
      (.mk pfcpIeMeasurementMethod 0 [u.measurementMethod] []) =
      .ok { urrId := u.urrId, measurementMethod := u.measurementMethod } := rfl
  have htriggers : parseCreateUrrIe
      { urrId := u.urrId, measurementMethod := u.measurementMethod }
      (.mk pfcpIeReportingTriggers 0 [u.reportingTriggers, 0x00] []) =
      .ok { urrId := u.urrId, measurementMethod := u.measurementMethod
            reportingTriggers := u.reportingTriggers } := rfl
  have hshort : ∀ ie ∈ urrIes u, ie.2.length < 65536 := fun ie hie =>
    (urrIes_short u ie hie).trans (by decide)
  rw [parseCreateUrr, urrBytes_eq, foldlM_iterIes (fun _ _ _ _ _ => rfl) hshort, urrIes]
  refine (foldlM_cons_of_ok hid).trans ?_
  refine (foldlM_cons_of_ok hmethod).trans ?_
  refine (foldlM_cons_of_ok htriggers).trans ?_
  have hvolume : ∀ urr : ParsedURR, urr.volumeThresholdTotal = none →
      (optIe pfcpIeVolumeThreshold
        (u.volumeThresholdTotal.map fun total => volumeThresholdTovol :: u64ToBe total)).foldlM
        (onPair parseCreateUrrIe) urr =
      .ok { urr with volumeThresholdTotal := u.volumeThresholdTotal } := by
    intro urr hurr
    refine foldlM_optIe (fun hv => ?_) fun v hv => ?_
    · rw [Option.map_eq_none_iff.mp hv, ← hurr]
    · obtain ⟨total, htotal, rfl⟩ := Option.map_eq_some_iff.mp hv
      simp only [parseCreateUrrIe, RawIE.ieType, RawIE.value, parseVolumeThreshold_total, htotal]
      rfl
  refine (foldlM_append_of_ok (hvolume _ rfl)).trans ?_
  refine foldlM_optIe (fun hv => ?_) fun v hv => ?_
  · simp [UrrParams.parsed, Option.map_eq_none_iff.mp hv]
  · obtain ⟨period, hperiod, rfl⟩ := Option.map_eq_some_iff.mp hv
    simp only [parseCreateUrrIe, RawIE.ieType, RawIE.value, field32_u32ToBe, UrrParams.parsed,
      hperiod]
    rfl

/-! ### PDRs -/

/-- What a PDR is read back as: an F-TEID is only ever written with the CHOOSE flag. -/
def PdrParams.parsed (p : PdrParams) : ParsedPDR where
  pdrId := p.pdrId
  precedence := p.precedence
  sourceInterface := p.sourceInterface
  localFteid := if p.fteidChoose then some (0, .unspecified) else none
  ueIp := p.ueIp
  farId := some p.farId
  urrId := p.urrId
  outerHeaderRemoval := p.outerHeaderRemoval
  sdfFilter := p.sdfFilter

def pdiIes (p : PdrParams) : List (UInt16 × Bytes) :=
  (pfcpIeSourceInterface, [p.sourceInterface]) ::
    (optIe pfcpIeFteid (if p.fteidChoose then some [0x04, 0x00, 0x00, 0x00, 0x00] else none) ++
      (optIe pfcpIeUeIpAddress (p.ueIp.map fun ip => 0x02 :: ip.octets) ++
        optIe pfcpIeSdfFilter (p.sdfFilter.map sdfFilterBytes)))

def pdrIes (p : PdrParams) : List (UInt16 × Bytes) :=
  [(pfcpIePdrId, u16ToBe p.pdrId), (pfcpIePrecedence, u32ToBe p.precedence),
      (pfcpIePdi, (pdiIes p).flatMap ieBytes), (pfcpIeFarId, u32ToBe p.farId)] ++
    (optIe pfcpIeUrrId (p.urrId.map u32ToBe) ++
      optIe pfcpIeOuterHeaderRemoval (if p.outerHeaderRemoval then some [0x00] else none))

theorem addCreatePdr_eq (buf : Bytes) (p : PdrParams) :
    addCreatePdr buf p = buf ++ ieBytes (pfcpIeCreatePdr, (pdrIes p).flatMap ieBytes) := by
  simp [addCreatePdr, pdrIes, pdiIes, appendIe_eq, appendOptIe_eq]

theorem length_sdfFilterBytes (sdf : SdfFilter) : (sdfFilterBytes sdf).length = 13 := by
  simp [sdfFilterBytes, u16ToBe, length_bytesBe, Ipv4Addr.octets]

theorem pdiIes_short (p : PdrParams) : ∀ ie ∈ pdiIes p, ie.2.length < 14 := by
  intro ie hie
  simp only [pdiIes, List.mem_cons, List.mem_append] at hie
  rcases hie with rfl | hie | hie | hie
  · simp
  · refine length_of_mem_optIe (fun v hv => ?_) ie hie
    split_ifs at hv
    rw [← Option.some.inj hv]
    simp
  · refine length_of_mem_optIe (fun v hv => ?_) ie hie
    obtain ⟨ip, -, rfl⟩ := Option.map_eq_some_iff.mp hv
    simp [Ipv4Addr.octets]
  · refine length_of_mem_optIe (fun v hv => ?_) ie hie
    obtain ⟨sdf, -, rfl⟩ := Option.map_eq_some_iff.mp hv
    simp [length_sdfFilterBytes]

theorem length_pdi (p : PdrParams) : ((pdiIes p).flatMap ieBytes).length < 69 := by
  have hlen := length_flatMap_ieBytes (pdiIes_short p)
  have hcount : (pdiIes p).length ≤ 4 := by
    have h1 := length_optIe_le pfcpIeFteid
      (if p.fteidChoose then some [0x04, 0x00, 0x00, 0x00, 0x00] else none)
    have h2 := length_optIe_le pfcpIeUeIpAddress (p.ueIp.map fun ip => 0x02 :: ip.octets)
    have h3 := length_optIe_le pfcpIeSdfFilter (p.sdfFilter.map sdfFilterBytes)
    rw [pdiIes, List.length_cons, List.length_append, List.length_append]
    omega
  omega

/-- The optional fields of a PDI, one by one. -/
theorem foldlM_fteid (p : PdrParams) {pdr : ParsedPDR} (hpdr : pdr.localFteid = none) :
    (optIe pfcpIeFteid (if p.fteidChoose then some [0x04, 0x00, 0x00, 0x00, 0x00] else none)).foldlM
      (onPair parsePdiIe) pdr =
    .ok { pdr with localFteid := p.parsed.localFteid } := by
  refine foldlM_optIe (fun hv => ?_) fun v hv => ?_
  · have hc : p.fteidChoose = false := by simpa using hv
    have hp : p.parsed.localFteid = pdr.localFteid := by simp [PdrParams.parsed, hc, hpdr]
    rw [hp]
  · split_ifs at hv with hc
    rw [← Option.some.inj hv]
    simp only [PdrParams.parsed, hc]
    rfl

theorem foldlM_ueIpAddress (p : PdrParams) {pdr : ParsedPDR} (hpdr : pdr.ueIp = none) :
    (optIe pfcpIeUeIpAddress (p.ueIp.map fun ip => 0x02 :: ip.octets)).foldlM
      (onPair parsePdiIe) pdr = .ok { pdr with ueIp := p.ueIp } := by
  refine foldlM_optIe (fun hv => ?_) fun v hv => ?_
  · rw [Option.map_eq_none_iff.mp hv, ← hpdr]
  · obtain ⟨ip, hip, rfl⟩ := Option.map_eq_some_iff.mp hv
    simp only [parsePdiIe, RawIE.ieType, RawIE.value, parseUeIpAddress_octets, hip]
    rfl

theorem foldlM_sdfFilter (p : PdrParams) {pdr : ParsedPDR} (hpdr : pdr.sdfFilter = none) :
    (optIe pfcpIeSdfFilter (p.sdfFilter.map sdfFilterBytes)).foldlM
      (onPair parsePdiIe) pdr =
    .ok { pdr with sdfFilter := p.sdfFilter } := by
  refine foldlM_optIe (fun hv => ?_) fun v hv => ?_
  · rw [Option.map_eq_none_iff.mp hv, ← hpdr]
  · obtain ⟨sdf, hs, rfl⟩ := Option.map_eq_some_iff.mp hv
    simp only [parsePdiIe, RawIE.ieType, RawIE.value, parseSdfFilter_bytes, hs]
    rfl

theorem parsePdi_pdiIes {p : PdrParams} (hif : p.sourceInterface < 16) {pdr : ParsedPDR}
    (hfteid : pdr.localFteid = none) (hue : pdr.ueIp = none) (hsdf : pdr.sdfFilter = none) :
    parsePdi ((pdiIes p).flatMap ieBytes) pdr =
      .ok { pdr with sourceInterface := p.sourceInterface
                     localFteid := p.parsed.localFteid
                     ueIp := p.ueIp
                     sdfFilter := p.sdfFilter } := by
  have hshort : ∀ ie ∈ pdiIes p, ie.2.length < 65536 := fun ie hie =>
    (pdiIes_short p ie hie).trans (by decide)
  have hsource : parsePdiIe pdr (.mk pfcpIeSourceInterface 0 [p.sourceInterface] []) =
      .ok { pdr with sourceInterface := p.sourceInterface } := by
    simp [parsePdiIe, RawIE.ieType, RawIE.value, and_0x0F hif]
    rfl
  rw [parsePdi, foldlM_iterIes (fun _ _ _ _ _ => rfl) hshort, pdiIes]
  refine (foldlM_cons_of_ok hsource).trans ?_
  refine Eq.trans (foldlM_append_of_ok (foldlM_fteid p (by exact hfteid))) ?_
  refine Eq.trans (foldlM_append_of_ok (foldlM_ueIpAddress p (by exact hue))) ?_
  exact foldlM_sdfFilter p hsdf

theorem pdrIes_short (p : PdrParams) : ∀ ie ∈ pdrIes p, ie.2.length < 69 := by
  intro ie hie
  simp only [pdrIes, List.mem_append, List.mem_cons, List.not_mem_nil, or_false] at hie
  rcases hie with (rfl | rfl | rfl | rfl) | hie | hie
  · simp [u16ToBe, length_bytesBe]
  · simp [u32ToBe, length_bytesBe]
  · exact length_pdi p
  · simp [u32ToBe, length_bytesBe]
  · refine length_of_mem_optIe (fun v hv => ?_) ie hie
    obtain ⟨urrId, -, rfl⟩ := Option.map_eq_some_iff.mp hv
    simp [u32ToBe, length_bytesBe]
  · refine length_of_mem_optIe (fun v hv => ?_) ie hie
    split_ifs at hv
    rw [← Option.some.inj hv]
    simp

theorem parseCreatePdr_pdrIes {p : PdrParams} (hif : p.sourceInterface < 16) :
    parseCreatePdr ((pdrIes p).flatMap ieBytes) = .ok p.parsed := by
  have hid : parseCreatePdrIe {} (.mk pfcpIePdrId 0 (u16ToBe p.pdrId) []) =
      .ok { pdrId := p.pdrId } := by
    simp [parseCreatePdrIe, RawIE.ieType, RawIE.value, field16_u16ToBe]
    rfl
  have hprec : parseCreatePdrIe { pdrId := p.pdrId }
      (.mk pfcpIePrecedence 0 (u32ToBe p.precedence) []) =
      .ok { pdrId := p.pdrId, precedence := p.precedence } := by
    have hne : pfcpIePrecedence ≠ pfcpIePdrId := by decide
    simp [parseCreatePdrIe, RawIE.ieType, RawIE.value, field32_u32ToBe, hne]
    rfl
  have hpdi : parseCreatePdrIe { pdrId := p.pdrId, precedence := p.precedence }
      (.mk pfcpIePdi 0 ((pdiIes p).flatMap ieBytes) []) = _ :=
    parsePdi_pdiIes hif rfl rfl rfl
  have hshort : ∀ ie ∈ pdrIes p, ie.2.length < 65536 := fun ie hie =>
    (pdrIes_short p ie hie).trans (by decide)
  have hfar : ∀ pdr : ParsedPDR, parseCreatePdrIe pdr (.mk pfcpIeFarId 0 (u32ToBe p.farId) []) =
      .ok { pdr with farId := some p.farId } := by
    intro pdr
    simp only [parseCreatePdrIe, RawIE.ieType, RawIE.value, field32_u32ToBe]
    rfl
  have hurr : ∀ pdr : ParsedPDR, pdr.urrId = none →
      (optIe pfcpIeUrrId (p.urrId.map u32ToBe)).foldlM
        (onPair parseCreatePdrIe) pdr =
      .ok { pdr with urrId := p.urrId } := by
    intro pdr hpdr
    refine foldlM_optIe (fun hv => ?_) fun v hv => ?_
    · rw [Option.map_eq_none_iff.mp hv, ← hpdr]
    · obtain ⟨urrId, hid, rfl⟩ := Option.map_eq_some_iff.mp hv
      simp only [parseCreatePdrIe, RawIE.ieType, RawIE.value, field32_u32ToBe, hid]
      rfl
  rw [parseCreatePdr, foldlM_iterIes (fun _ _ _ _ _ => rfl) hshort, pdrIes]
  refine (foldlM_cons_of_ok hid).trans ?_
  refine (foldlM_cons_of_ok hprec).trans ?_
  refine (foldlM_cons_of_ok hpdi).trans ?_
  refine (foldlM_cons_of_ok (hfar _)).trans ?_
  refine (foldlM_append_of_ok (hurr _ rfl)).trans ?_
  refine foldlM_optIe (fun hv => ?_) fun v hv => ?_
  · have hr : p.outerHeaderRemoval = false := by simpa using hv
    simp [PdrParams.parsed, hr]
  · split_ifs at hv with hr
    rw [← Option.some.inj hv]
    simp only [PdrParams.parsed, hr]
    rfl

/-! ### Calls on a builder -/

/-- A call that adds one IE to a request. -/
inductive RequestCall where
  | nodeId (addr : Ipv4Addr)
  | fseid (seid : UInt64) (addr : Ipv4Addr)
  | createPdr (p : PdrParams)
  | createFar (f : FarParams)
  | createUrr (u : UrrParams)
  | updateFar (f : FarParams)
  | updateUrr (u : UrrParams)

namespace RequestCall

def apply (buf : Bytes) : RequestCall → Bytes
  | nodeId addr => addNodeIdV4 buf addr
  | fseid seid addr => addFseid buf seid addr
  | createPdr p => addCreatePdr buf p
  | createFar f => addCreateFar buf f
  | createUrr u => addCreateUrr buf u
  | updateFar f => addUpdateFar buf f
  | updateUrr u => addUpdateUrr buf u

/-- The interface numbers of a call fit the four bits they are read from. -/
def InRange : RequestCall → Prop
  | createPdr p => p.sourceInterface < 16
  | createFar f | updateFar f => f.destInterface < 16
  | _ => True

instance : ∀ c : RequestCall, Decidable c.InRange
  | nodeId _ | fseid _ _ | createUrr _ | updateUrr _ => inferInstanceAs (Decidable True)
  | createPdr p => inferInstanceAs (Decidable (p.sourceInterface < 16))
  | createFar f | updateFar f => inferInstanceAs (Decidable (f.destInterface < 16))

def nodeId? : RequestCall → Option Ipv4Addr
  | nodeId addr => some addr
  | _ => none

def fseid? : RequestCall → Option (UInt64 × Ipv4Addr)
  | fseid seid addr => some (seid, addr)
  | _ => none

def createPdr? : RequestCall → Option PdrParams
  | createPdr p => some p
  | _ => none

def createFar? : RequestCall → Option FarParams
  | createFar f => some f
  | _ => none

def createUrr? : RequestCall → Option UrrParams
  | createUrr u => some u
  | _ => none

def updateFar? : RequestCall → Option FarParams
  | updateFar f => some f
  | _ => none

def updateUrr? : RequestCall → Option UrrParams
  | updateUrr u => some u
  | _ => none

/-- The IE a call adds. -/
def ie : RequestCall → UInt16 × Bytes
  | nodeId addr => (pfcpIeNodeId, 0x00 :: addr.octets)
  | fseid seid addr => (pfcpIeFseid, 0x02 :: (u64ToBe seid ++ addr.octets))
  | createPdr p => (pfcpIeCreatePdr, (pdrIes p).flatMap ieBytes)
  | createFar f => (pfcpIeCreateFar, farBytes pfcpIeForwardingParameters f)
  | createUrr u => (pfcpIeCreateUrr, urrBytes u)
  | updateFar f => (pfcpIeUpdateFar, farBytes pfcpIeUpdateForwardingParameters f)
  | updateUrr u => (pfcpIeUpdateUrr, urrBytes u)

theorem apply_eq (buf : Bytes) (c : RequestCall) : c.apply buf = buf ++ ieBytes c.ie := by
  cases c with
  | createPdr p => exact addCreatePdr_eq buf p
  | _ => rfl

theorem foldl_apply (calls : List RequestCall) (buf : Bytes) :
    calls.foldl apply buf = buf ++ (calls.map ie).flatMap ieBytes := by
  induction calls generalizing buf with
  | nil => simp
  | cons c calls ih => simp [ih, apply_eq]

theorem length_farBytes {forwardingIe : UInt16} (f : FarParams) :
    (farBytes forwardingIe f).length < 65536 := by
  have hshort : ∀ ie ∈ farIes forwardingIe f, ie.2.length < 29 := farIes_short f
  have hlen := length_flatMap_ieBytes hshort
  have hcount : (farIes forwardingIe f).length = 3 := rfl
  rw [farBytes_eq]
  omega

theorem length_urrBytes (u : UrrParams) : (urrBytes u).length < 65536 := by
  have hlen := length_flatMap_ieBytes (urrIes_short u)
  have hcount : (urrIes u).length ≤ 5 := by
    have h1 := length_optIe_le pfcpIeVolumeThreshold
      (u.volumeThresholdTotal.map fun total => volumeThresholdTovol :: u64ToBe total)
    have h2 := length_optIe_le pfcpIeMeasurementPeriod (u.measurementPeriod.map u32ToBe)
    simp only [urrIes, List.length_append, List.length_cons, List.length_nil]
    omega
  rw [urrBytes_eq]
  omega

theorem length_pdrBytes (p : PdrParams) : ((pdrIes p).flatMap ieBytes).length < 65536 := by
  have hlen := length_flatMap_ieBytes (pdrIes_short p)
  have hcount : (pdrIes p).length ≤ 6 := by
    have h1 := length_optIe_le pfcpIeUrrId (p.urrId.map u32ToBe)
    have h2 := length_optIe_le pfcpIeOuterHeaderRemoval
      (if p.outerHeaderRemoval then some [0x00] else none)
    simp only [pdrIes, List.length_append, List.length_cons, List.length_nil]
    omega
  omega

theorem ie_short (c : RequestCall) : c.ie.2.length < 65536 := by
  cases c with
  | nodeId addr => simp [ie, Ipv4Addr.octets]
  | fseid seid addr => simp [ie, u64ToBe, length_bytesBe, Ipv4Addr.octets]
  | createPdr p => exact length_pdrBytes p
  | createFar f => exact length_farBytes f
  | createUrr u => exact length_urrBytes u
  | updateFar f => exact length_farBytes f
  | updateUrr u => exact length_urrBytes u

theorem map_ie_short (calls : List RequestCall) : ∀ x ∈ calls.map ie, x.2.length < 65536 := by
  intro x hx
  obtain ⟨c, -, rfl⟩ := List.mem_map.mp hx
  exact ie_short c

theorem mapM_of_ok {α β : Type} {f : α → Except DecodeError β} {g : α → β} :
    ∀ {l : List α}, (∀ a ∈ l, f a = .ok (g a)) → l.mapM f = .ok (l.map g)
  | [], _ => rfl
  | a :: l, h => by
    rw [List.mapM_cons, h a (List.mem_cons_self ..),
      mapM_of_ok fun b hb => h b (List.mem_cons_of_mem _ hb)]
    rfl

section Kind

variable {α β : Type} {t : UInt16} {get : RequestCall → Option α} {value : α → Bytes}
  (hget : ∀ c, (if c.ie.1 = t then some c.ie else none) = (get c).map fun a => (t, value a))
include hget

/-- The IEs of one type are those of the calls of one kind. -/
theorem filter_ie (calls : List RequestCall) :
    (calls.map ie).filter (·.1 = t) = (calls.filterMap get).map fun a => (t, value a) := by
  induction calls with
  | nil => rfl
  | cons c calls ih =>
    have hc := hget c
    rw [List.map_cons, List.filter_cons, ih, List.filterMap_cons]
    by_cases ht : c.ie.1 = t
    · rw [if_pos ht] at hc
      obtain ⟨a, ha, hie⟩ := Option.map_eq_some_iff.mp hc.symm
      simp [ht, ha, hie]
    · rw [if_neg ht] at hc
      have ha : get c = none := Option.map_eq_none_iff.mp hc.symm
      simp [ht, ha]

theorem find_ie (calls : List RequestCall) :
    ((calls.map ie).find? (·.1 = t)).map (·.2) = (calls.filterMap get).head?.map value := by
  rw [← List.head?_filter, filter_ie hget, List.head?_map, Option.map_map]
  rfl

/-- A repeated IE is read back as the calls of its kind. -/
theorem collectIes_calls {calls : List RequestCall} {parse : Bytes → Except PfcpError β}
    {parsed : α → β}
    (hparse : ∀ c ∈ calls, ∀ a, get c = some a → parse (value a) = .ok (parsed a)) :
    collectIes (iterIes ((calls.map ie).flatMap ieBytes)) t parse =
      .ok ((calls.filterMap get).map parsed) := by
  rw [collectIes_flatMap (map_ie_short calls), filter_ie hget, List.mapM_map]
  refine mapM_of_ok fun a ha => ?_
  obtain ⟨c, hc, hca⟩ := List.mem_filterMap.mp ha
  simp only [Function.comp_apply, hparse c hc a hca]
  rfl

end Kind

/-- A kind and the type of its IE. -/
theorem get_nodeId (c : RequestCall) : (if c.ie.1 = pfcpIeNodeId then some c.ie else none) =
    c.nodeId?.map fun addr => (pfcpIeNodeId, 0x00 :: addr.octets) := by
  cases c <;> rfl

theorem get_fseid (c : RequestCall) : (if c.ie.1 = pfcpIeFseid then some c.ie else none) =
    c.fseid?.map fun f => (pfcpIeFseid, 0x02 :: (u64ToBe f.1 ++ f.2.octets)) := by
  cases c <;> rfl

theorem get_createPdr (c : RequestCall) : (if c.ie.1 = pfcpIeCreatePdr then some c.ie else none) =
    c.createPdr?.map fun p => (pfcpIeCreatePdr, (pdrIes p).flatMap ieBytes) := by
  cases c <;> rfl

theorem get_createFar (c : RequestCall) : (if c.ie.1 = pfcpIeCreateFar then some c.ie else none) =
    c.createFar?.map fun f => (pfcpIeCreateFar, farBytes pfcpIeForwardingParameters f) := by
  cases c <;> rfl

theorem get_createUrr (c : RequestCall) : (if c.ie.1 = pfcpIeCreateUrr then some c.ie else none) =
    c.createUrr?.map fun u => (pfcpIeCreateUrr, urrBytes u) := by
  cases c <;> rfl

theorem get_updateFar (c : RequestCall) : (if c.ie.1 = pfcpIeUpdateFar then some c.ie else none) =
    c.updateFar?.map fun f => (pfcpIeUpdateFar, farBytes pfcpIeUpdateForwardingParameters f) := by
  cases c <;> rfl

theorem get_updateUrr (c : RequestCall) : (if c.ie.1 = pfcpIeUpdateUrr then some c.ie else none) =
    c.updateUrr?.map fun u => (pfcpIeUpdateUrr, urrBytes u) := by
  cases c <;> rfl

end RequestCall

/-! ### The round trip -/

section Roundtrip

variable {calls : List RequestCall} (hin : ∀ c ∈ calls, c.InRange)
include hin

theorem decode_establishment {nodeId : Ipv4Addr} {fseid : UInt64 × Ipv4Addr}
    (hnode : calls.filterMap RequestCall.nodeId? = [nodeId])
    (hfseid : calls.filterMap RequestCall.fseid? = [fseid]) :
    SessionEstablishmentReq.decode ((calls.map RequestCall.ie).flatMap ieBytes) =
      .ok { nodeId := some nodeId
            cpSeid := fseid.1
            smfAddr := fseid.2
            createPdrs := (calls.filterMap RequestCall.createPdr?).map PdrParams.parsed
            createFars := (calls.filterMap RequestCall.createFar?).map FarParams.parsed
            createUrrs := (calls.filterMap RequestCall.createUrr?).map UrrParams.parsed } := by
  have hshort := RequestCall.map_ie_short calls
  have hf : requireIe (iterIes ((calls.map RequestCall.ie).flatMap ieBytes)) pfcpIeFseid
      .fseidMissing parseFseid = .ok fseid := by
    rw [requireIe_flatMap hshort, RequestCall.find_ie RequestCall.get_fseid, hfseid]
    simp only [List.head?_cons, Option.map_some, Option.elim_some, parseFseid_octets]
    rfl
  have hn : optionalIe (iterIes ((calls.map RequestCall.ie).flatMap ieBytes)) pfcpIeNodeId
      parseNodeId = some nodeId := by
    rw [optionalIe_flatMap hshort, RequestCall.find_ie RequestCall.get_nodeId, hnode]
    simp only [List.head?_cons, Option.map_some, Option.bind_some, parseNodeId_octets]
    rfl
  have hpdrs : collectIes (iterIes ((calls.map RequestCall.ie).flatMap ieBytes)) pfcpIeCreatePdr
      parseCreatePdr = .ok ((calls.filterMap RequestCall.createPdr?).map PdrParams.parsed) := by
    refine RequestCall.collectIes_calls RequestCall.get_createPdr fun c hc p hp => ?_
    cases c with
    | createPdr p' =>
      obtain rfl := Option.some.inj hp
      exact parseCreatePdr_pdrIes (hin _ hc)
    | _ => cases hp
  have hfars : collectIes (iterIes ((calls.map RequestCall.ie).flatMap ieBytes)) pfcpIeCreateFar
      parseCreateFar = .ok ((calls.filterMap RequestCall.createFar?).map FarParams.parsed) := by
    refine RequestCall.collectIes_calls RequestCall.get_createFar fun c hc f hf => ?_
    cases c with
    | createFar f' =>
      obtain rfl := Option.some.inj hf
      exact parseCreateFar_bytes (hin _ hc)
    | _ => cases hf
  have hurrs : collectIes (iterIes ((calls.map RequestCall.ie).flatMap ieBytes)) pfcpIeCreateUrr
      parseCreateUrr = .ok ((calls.filterMap RequestCall.createUrr?).map UrrParams.parsed) :=
    RequestCall.collectIes_calls RequestCall.get_createUrr fun _ _ u _ => parseCreateUrr_bytes u
  simp only [SessionEstablishmentReq.decode, hf, hn, hpdrs, hfars, hurrs, bind, Except.bind]
  rfl

theorem decode_modification :
    SessionModificationReq.decode ((calls.map RequestCall.ie).flatMap ieBytes) =
      .ok { cpSeid := (calls.filterMap RequestCall.fseid?).head?.map Prod.fst
            smfAddr := (calls.filterMap RequestCall.fseid?).head?.map Prod.snd
            updateFars := (calls.filterMap RequestCall.updateFar?).map FarParams.parsed
            updateUrrs := (calls.filterMap RequestCall.updateUrr?).map UrrParams.parsed } := by
  have hshort := RequestCall.map_ie_short calls
  have hf : optionalIe (iterIes ((calls.map RequestCall.ie).flatMap ieBytes)) pfcpIeFseid
      parseFseid = (calls.filterMap RequestCall.fseid?).head? := by
    rw [optionalIe_flatMap hshort, RequestCall.find_ie RequestCall.get_fseid]
    cases (calls.filterMap RequestCall.fseid?).head? with
    | none => rfl
    | some f =>
      simp only [Option.map_some, Option.bind_some, parseFseid_octets]
      rfl
  have hfars : collectIes (iterIes ((calls.map RequestCall.ie).flatMap ieBytes)) pfcpIeUpdateFar
      parseUpdateFar = .ok ((calls.filterMap RequestCall.updateFar?).map FarParams.parsed) := by
    refine RequestCall.collectIes_calls RequestCall.get_updateFar fun c hc f hf => ?_
    cases c with
    | updateFar f' =>
      obtain rfl := Option.some.inj hf
      exact parseUpdateFar_bytes (hin _ hc)
    | _ => cases hf
  have hurrs : collectIes (iterIes ((calls.map RequestCall.ie).flatMap ieBytes)) pfcpIeUpdateUrr
      parseCreateUrr = .ok ((calls.filterMap RequestCall.updateUrr?).map UrrParams.parsed) :=
    RequestCall.collectIes_calls RequestCall.get_updateUrr fun _ _ u _ => parseCreateUrr_bytes u
  simp only [SessionModificationReq.decode, hf, hfars, hurrs, bind, Except.bind]
  rfl

/-- **A request is read as it was built**: whatever the calls and their order, the header comes back
with its sequence number, and a decoder returns per kind, in the order of the calls, what the calls
were given. -/
theorem request_roundtrip (t : UInt8) (seid : UInt64) {seq : UInt32} (hseq : seq.toNat < 2 ^ 24) :
    ∃ header body,
      PfcpHeader.decode (finish (calls.foldl RequestCall.apply
        (PfcpHeader.newSessionMsg t seid seq).encode)) = .ok (header, body) ∧
      header.msgType = t ∧ header.seid = some seid ∧ header.seqNum = seq ∧
      (∀ nodeId fseid, calls.filterMap RequestCall.nodeId? = [nodeId] →
        calls.filterMap RequestCall.fseid? = [fseid] →
        SessionEstablishmentReq.decode body =
          .ok { nodeId := some nodeId
                cpSeid := fseid.1
                smfAddr := fseid.2
                createPdrs := (calls.filterMap RequestCall.createPdr?).map PdrParams.parsed
                createFars := (calls.filterMap RequestCall.createFar?).map FarParams.parsed
                createUrrs := (calls.filterMap RequestCall.createUrr?).map UrrParams.parsed }) ∧
      SessionModificationReq.decode body =
        .ok { cpSeid := (calls.filterMap RequestCall.fseid?).head?.map Prod.fst
              smfAddr := (calls.filterMap RequestCall.fseid?).head?.map Prod.snd
              updateFars := (calls.filterMap RequestCall.updateFar?).map FarParams.parsed
              updateUrrs := (calls.filterMap RequestCall.updateUrr?).map UrrParams.parsed } := by
  have hbody : calls.foldl RequestCall.apply (PfcpHeader.newSessionMsg t seid seq).encode =
      (PfcpHeader.newSessionMsg t seid seq).encode ++ (calls.map RequestCall.ie).flatMap ieBytes :=
    RequestCall.foldl_apply ..
  have hread : UInt32.ofNat (seq.toNat % 2 ^ 24) = seq := by
    rw [Nat.mod_eq_of_lt hseq, UInt32.ofNat_toNat]
  rw [hbody, decode_newSessionMsg, hread]
  refine ⟨_, _, rfl, rfl, rfl, rfl, fun nodeId fseid hnode hfseid => ?_, ?_⟩
  · exact decode_establishment hin hnode hfseid
  · exact decode_modification hin

end Roundtrip

/-- Two rules of each kind, interleaved, around the Node ID and the F-SEID. -/
def interleaved : List RequestCall :=
  [.createFar ⟨2, 0x02, 0, some ⟨7, ⟨10, 0, 0, 20⟩, 2152⟩⟩, .nodeId ⟨10, 0, 0, 11⟩,
    .createPdr ⟨1, 100, 0, true, some ⟨10, 60, 0, 1⟩, 1, some 1, true,
      some ⟨6, ⟨0, 0, 0, 0⟩, ⟨8, 8, 8, 8⟩, 0, 80⟩⟩,
    .createUrr ⟨1, 2, 3, some 10000, none⟩, .fseid 7 ⟨10, 0, 0, 11⟩,
    .createPdr ⟨2, 200, 1, false, none, 2, none, false, none⟩, .createFar ⟨1, 0x02, 1, none⟩,
    .createUrr ⟨2, 2, 1, none, some 30⟩]

theorem request_roundtrip_interleaved :
    ∃ header body,
      PfcpHeader.decode (finish (interleaved.foldl RequestCall.apply
        (PfcpHeader.newSessionMsg pfcpSessionEstablishmentReq 0 0xABCDEF).encode)) =
          .ok (header, body) ∧
      header.seqNum = 0xABCDEF ∧
      (SessionEstablishmentReq.decode body).toOption.map (fun req =>
        (req.nodeId, req.cpSeid, req.createPdrs.map (·.pdrId), req.createPdrs.map (·.localFteid),
          req.createFars.map (·.farId), req.createUrrs.map (·.measurementPeriod))) =
        some (some ⟨10, 0, 0, 11⟩, 7, [1, 2], [some (0, ⟨0, 0, 0, 0⟩), none], [2, 1],
          [none, some 30]) := by
  have hin : ∀ c ∈ interleaved, c.InRange := by decide
  have hlt : (0xABCDEF : UInt32).toNat < 2 ^ 24 := by decide
  obtain ⟨header, body, hd, -, -, hseq, hest, -⟩ :=
    request_roundtrip hin pfcpSessionEstablishmentReq 0 hlt
  exact ⟨header, body, hd, hseq, by rw [hest _ _ rfl rfl]; rfl⟩

end UpfEdge.Pfcp
