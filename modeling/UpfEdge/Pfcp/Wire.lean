import UpfEdge.Pfcp.Messages

/-!
# What a receiver reads of a message

A message is a header and a list of IEs, written one after the other; `iterIes` gives the list back,
by type and value (`iterIes_flatMap`), and `PfcpHeader.decode` the octets it stands in.  `stamps`
are the Recovery Time Stamps a receiver finds in a message.
-/

namespace UpfEdge.Pfcp

open Lib

/-! ### Lists of IEs -/

/-- The octets of one IE. -/
def ieBytes (ie : UInt16 × Bytes) : Bytes :=
  u16ToBe ie.1 ++ u16ToBe (UInt16.ofNat ie.2.length) ++ ie.2

theorem appendIe_eq (buf : Bytes) (t : UInt16) (v : Bytes) :
    appendIe buf t v = buf ++ ieBytes (t, v) := rfl

/-- The loop, at an IE that is there whole. -/
theorem iterIes_ieBytes_append {t : UInt16} {v : Bytes} (hv : v.length < 65536) (rest : Bytes) :
    iterIes (ieBytes (t, v) ++ rest) =
      .mk t (UInt16.ofNat v.length) v (if isGroupedIe t then iterIes v else []) ::
        iterIes rest := by
  obtain ⟨t₀, t₁, ht⟩ : ∃ b₀ b₁, u16ToBe t = [b₀, b₁] := ⟨_, _, rfl⟩
  obtain ⟨l₀, l₁, hl⟩ : ∃ b₀ b₁, u16ToBe (UInt16.ofNat v.length) = [b₀, b₁] := ⟨_, _, rfl⟩
  have htype : u16OfBe [t₀, t₁] = t := by rw [← ht, u16OfBe_u16ToBe]
  have hlen : (u16OfBe [l₀, l₁]).toNat = v.length := by
    rw [← hl, u16OfBe_u16ToBe]
    exact UInt16.toNat_ofNat_of_lt' hv
  have hbuf : ieBytes (t, v) ++ rest = t₀ :: t₁ :: l₀ :: l₁ :: (v ++ rest) := by
    simp [ieBytes, ht, hl]
  have hroom : ¬ (v ++ rest).length < v.length := by
    rw [List.length_append]
    omega
  rw [hbuf, iterIes_cons, htype, hlen, if_neg hroom, List.take_left, List.drop_left]

theorem iterIes_ieBytes {t : UInt16} {v : Bytes} (hv : v.length < 65536) (rest : Bytes) :
    ∃ sub, iterIes (ieBytes (t, v) ++ rest) =
      .mk t (UInt16.ofNat v.length) v sub :: iterIes rest :=
  ⟨_, iterIes_ieBytes_append hv rest⟩

/-- **A list of IEs is read back**, by type and value. -/
theorem iterIes_flatMap : ∀ {ies : List (UInt16 × Bytes)}, (∀ ie ∈ ies, ie.2.length < 65536) →
    (iterIes (ies.flatMap ieBytes)).map (fun ie => (ie.ieType, ie.value)) = ies
  | [], _ => by
    rw [List.flatMap_nil, iterIes]
    rfl
  | (t, v) :: ies, h => by
    have hv := h _ (List.mem_cons_self ..)
    obtain ⟨sub, heq⟩ := iterIes_ieBytes (t := t) hv (ies.flatMap ieBytes)
    rw [List.flatMap_cons, heq, List.map_cons,
      iterIes_flatMap fun ie hie => h ie (List.mem_cons_of_mem _ hie)]
    rfl

/-! ### Decoders over a list of IEs -/

theorem findIe_flatMap {ies : List (UInt16 × Bytes)} (h : ∀ ie ∈ ies, ie.2.length < 65536)
    (t : UInt16) : (findIe (iterIes (ies.flatMap ieBytes)) t).map (·.value) =
      (ies.find? (·.1 = t)).map (·.2) := by
  conv_rhs => rw [← iterIes_flatMap h, List.find?_map, Option.map_map]
  rfl

theorem requireIe_flatMap {α : Type} {ies : List (UInt16 × Bytes)}
    (h : ∀ ie ∈ ies, ie.2.length < 65536) (t : UInt16) (missing : DecodeError)
    (parse : Bytes → Except PfcpError α) :
    requireIe (iterIes (ies.flatMap ieBytes)) t missing parse =
      ((ies.find? (·.1 = t)).map (·.2)).elim (.error missing) fun v => (parse v).mapError .ie := by
  rw [← findIe_flatMap h, requireIe]
  cases findIe (iterIes (ies.flatMap ieBytes)) t <;> rfl

theorem optionalIe_flatMap {α : Type} {ies : List (UInt16 × Bytes)}
    (h : ∀ ie ∈ ies, ie.2.length < 65536) (t : UInt16) (parse : Bytes → Except PfcpError α) :
    optionalIe (iterIes (ies.flatMap ieBytes)) t parse =
      ((ies.find? (·.1 = t)).map (·.2)).bind fun v => (parse v).toOption := by
  rw [← findIe_flatMap h, optionalIe]
  cases findIe (iterIes (ies.flatMap ieBytes)) t <;> rfl

theorem collectIes_flatMap {α : Type} {ies : List (UInt16 × Bytes)}
    (h : ∀ ie ∈ ies, ie.2.length < 65536) (t : UInt16) (parse : Bytes → Except PfcpError α) :
    collectIes (iterIes (ies.flatMap ieBytes)) t parse =
      (ies.filter (·.1 = t)).mapM fun ie => (parse ie.2).mapError .ie := by
  conv_rhs => rw [← iterIes_flatMap h, List.filter_map, List.mapM_map]
  rfl

/-! ### Messages -/

/-- The receiver of a node message reads its body. -/
theorem decode_finish_nodeMsg (t : UInt8) (seq : UInt32) (rest : Bytes) :
    ∃ header, PfcpHeader.decode (finish ((PfcpHeader.newNodeMsg t seq).encode ++ rest)) =
      .ok (header, rest) :=
  ⟨_, decode_newNodeMsg t seq rest⟩

/-- The Recovery Time Stamps in a message. -/
def stamps (msg : Bytes) : List UInt32 :=
  match PfcpHeader.decode msg with
  | .ok (_, body) => (iterIes body).filterMap fun ie =>
      if ie.ieType = pfcpIeRecoveryTimeStamp then (parseRecoveryTimestamp ie.value).toOption
      else none
  | .error _ => []

/-- Those in a list of IEs. -/
def stampsOf (ies : List (UInt16 × Bytes)) : List UInt32 :=
  ies.filterMap fun ie =>
    if ie.1 = pfcpIeRecoveryTimeStamp then (parseRecoveryTimestamp ie.2).toOption else none

theorem stamps_of_decode {msg : Bytes} {header : PfcpHeader} {ies : List (UInt16 × Bytes)}
    (hd : PfcpHeader.decode msg = .ok (header, ies.flatMap ieBytes))
    (h : ∀ ie ∈ ies, ie.2.length < 65536) : stamps msg = stampsOf ies := by
  have hies := iterIes_flatMap h
  simp only [stamps, hd]
  conv_rhs => rw [stampsOf, ← hies, List.filterMap_map]
  rfl

theorem stamps_nodeMsg (t : UInt8) (seq : UInt32) {ies : List (UInt16 × Bytes)}
    (h : ∀ ie ∈ ies, ie.2.length < 65536) :
    stamps (finish ((PfcpHeader.newNodeMsg t seq).encode ++ ies.flatMap ieBytes)) =
      stampsOf ies := by
  obtain ⟨header, hd⟩ := decode_finish_nodeMsg t seq (ies.flatMap ieBytes)
  exact stamps_of_decode hd h

theorem stamps_sessionMsg (t : UInt8) (seid : UInt64) (seq : UInt32) {ies : List (UInt16 × Bytes)}
    (h : ∀ ie ∈ ies, ie.2.length < 65536) :
    stamps (finish ((PfcpHeader.newSessionMsg t seid seq).encode ++ ies.flatMap ieBytes)) =
      stampsOf ies := by
  obtain ⟨header, hd, -⟩ := decode_finish_sessionMsg t seid seq (ies.flatMap ieBytes)
  exact stamps_of_decode hd h

theorem parseRecoveryTimestamp_u32ToBe (ts : UInt32) :
    parseRecoveryTimestamp (u32ToBe ts) = .ok ts := by
  obtain ⟨b₀, b₁, b₂, b₃, hb⟩ : ∃ b₀ b₁ b₂ b₃, u32ToBe ts = [b₀, b₁, b₂, b₃] := ⟨_, _, _, _, rfl⟩
  have hts := u32OfBe_u32ToBe ts
  rw [hb] at hts ⊢
  simp [parseRecoveryTimestamp, hts]

/-- A node message with a Recovery Time Stamp alone: a Heartbeat Request or Response. -/
theorem stamps_heartbeat (t : UInt8) (seq ts : UInt32) :
    stamps (finish (addRecoveryTimestamp (PfcpHeader.newNodeMsg t seq).encode ts)) = [ts] := by
  have hies : addRecoveryTimestamp (PfcpHeader.newNodeMsg t seq).encode ts =
      (PfcpHeader.newNodeMsg t seq).encode ++
        [(pfcpIeRecoveryTimeStamp, u32ToBe ts)].flatMap ieBytes := by
    simp [addRecoveryTimestamp, appendIe_eq]
  have hlen : (u32ToBe ts).length = 4 := length_bytesBe ..
  rw [hies, stamps_nodeMsg t seq (by simp [hlen])]
  simp [stampsOf, parseRecoveryTimestamp_u32ToBe, Except.toOption]

theorem stamps_associationSetupResponse (seq : UInt32) (addr : Ipv4Addr) (ts : UInt32) :
    stamps (buildAssociationSetupResponse seq addr ts) = [ts] := by
  have hies : buildAssociationSetupResponse seq addr ts =
      finish ((PfcpHeader.newNodeMsg pfcpAssociationSetupRsp seq).encode ++
        [(pfcpIeNodeId, 0x00 :: addr.octets), (pfcpIeCause, [causeRequestAccepted]),
          (pfcpIeRecoveryTimeStamp, u32ToBe ts),
          (pfcpIeUpFunctionFeatures, [0x04, 0x00])].flatMap ieBytes) := by
    simp [buildAssociationSetupResponse, addNodeIdV4, addCause, addRecoveryTimestamp,
      addUpFunctionFeatures, appendIe_eq]
  have hlen : (u32ToBe ts).length = 4 := length_bytesBe ..
  rw [hies, stamps_nodeMsg _ _ (by simp [hlen, Ipv4Addr.octets])]
  have h1 : pfcpIeNodeId ≠ pfcpIeRecoveryTimeStamp := by decide
  have h2 : pfcpIeCause ≠ pfcpIeRecoveryTimeStamp := by decide
  have h3 : pfcpIeUpFunctionFeatures ≠ pfcpIeRecoveryTimeStamp := by decide
  simp [stampsOf, h1, h2, h3, parseRecoveryTimestamp_u32ToBe, Except.toOption]

theorem stampsOf_eq_nil {ies : List (UInt16 × Bytes)}
    (h : ∀ ie ∈ ies, ie.1 ≠ pfcpIeRecoveryTimeStamp) : stampsOf ies = [] :=
  List.filterMap_eq_nil_iff.mpr fun ie hie => if_neg (h ie hie)

/-- A session message without a Recovery Time Stamp. -/
theorem stamps_sessionMsg_eq_nil {t : UInt8} {seid : UInt64} {seq : UInt32}
    {ies : List (UInt16 × Bytes)}
    (h : ∀ ie ∈ ies, ie.2.length < 65536 ∧ ie.1 ≠ pfcpIeRecoveryTimeStamp) :
    stamps (finish ((PfcpHeader.newSessionMsg t seid seq).encode ++ ies.flatMap ieBytes)) = [] := by
  rw [stamps_sessionMsg t seid seq fun ie hie => (h ie hie).1]
  exact stampsOf_eq_nil fun ie hie => (h ie hie).2

theorem stamps_cause (t : UInt8) (seid : UInt64) (seq : UInt32) (cause : UInt8) :
    stamps (finish (addCause (PfcpHeader.newSessionMsg t seid seq).encode cause)) = [] := by
  have hies : addCause (PfcpHeader.newSessionMsg t seid seq).encode cause =
      (PfcpHeader.newSessionMsg t seid seq).encode ++ [(pfcpIeCause, [cause])].flatMap ieBytes := by
    simp [addCause, appendIe_eq]
  have h1 : pfcpIeCause ≠ pfcpIeRecoveryTimeStamp := by decide
  rw [hies]
  exact stamps_sessionMsg_eq_nil (by simp [h1])

/-- The value of a Created PDR. -/
def createdPdrBytes (p : UInt16 × UInt32 × Ipv4Addr) : Bytes :=
  [(pfcpIePdrId, u16ToBe p.1), (pfcpIeFteid, 0x02 :: (u32ToBe p.2.1 ++ p.2.2.octets))].flatMap
    ieBytes

theorem foldl_addCreatedPdr (pdrs : List (UInt16 × UInt32 × Ipv4Addr)) (msg : Bytes) :
    pdrs.foldl (fun m p => addCreatedPdr m p.1 p.2.1 p.2.2) msg =
      msg ++ (pdrs.map fun p => (pfcpIeCreatedPdr, createdPdrBytes p)).flatMap ieBytes := by
  induction pdrs generalizing msg with
  | nil => simp
  | cons p pdrs ih =>
    have hone : addCreatedPdr msg p.1 p.2.1 p.2.2 =
        msg ++ ieBytes (pfcpIeCreatedPdr, createdPdrBytes p) := by
      simp [addCreatedPdr, appendIe_eq, createdPdrBytes]
    rw [List.foldl_cons, hone, ih, List.map_cons, List.flatMap_cons, List.append_assoc]

theorem length_createdPdrBytes (p : UInt16 × UInt32 × Ipv4Addr) :
    (createdPdrBytes p).length = 19 := by
  simp [createdPdrBytes, ieBytes, u16ToBe, u32ToBe, length_bytesBe, Ipv4Addr.octets]

/-- The IEs of a Session Establishment Response. -/
def establishmentIes (ourSeid : UInt64) (addr : Ipv4Addr)
    (pdrs : List (UInt16 × UInt32 × Ipv4Addr)) : List (UInt16 × Bytes) :=
  [(pfcpIeNodeId, 0x00 :: addr.octets), (pfcpIeCause, [causeRequestAccepted]),
      (pfcpIeFseid, 0x02 :: (u64ToBe ourSeid ++ addr.octets))] ++
    pdrs.map fun p => (pfcpIeCreatedPdr, createdPdrBytes p)

theorem buildSessionEstablishmentResponse_eq (seq : UInt32) (cpSeid ourSeid : UInt64)
    (addr : Ipv4Addr) (pdrs : List (UInt16 × UInt32 × Ipv4Addr)) :
    buildSessionEstablishmentResponse seq cpSeid ourSeid addr pdrs =
      finish ((PfcpHeader.newSessionMsg pfcpSessionEstablishmentRsp cpSeid seq).encode ++
        (establishmentIes ourSeid addr pdrs).flatMap ieBytes) := by
  simp [buildSessionEstablishmentResponse, establishmentIes, addNodeIdV4, addCause, addFseid,
    appendIe_eq, foldl_addCreatedPdr]

theorem stamps_sessionEstablishmentResponse (seq : UInt32) (cpSeid ourSeid : UInt64)
    (addr : Ipv4Addr) (pdrs : List (UInt16 × UInt32 × Ipv4Addr)) :
    stamps (buildSessionEstablishmentResponse seq cpSeid ourSeid addr pdrs) = [] := by
  rw [buildSessionEstablishmentResponse_eq, establishmentIes]
  refine stamps_sessionMsg_eq_nil fun ie hie => ?_
  have h1 : pfcpIeNodeId ≠ pfcpIeRecoveryTimeStamp := by decide
  have h2 : pfcpIeCause ≠ pfcpIeRecoveryTimeStamp := by decide
  have h3 : pfcpIeFseid ≠ pfcpIeRecoveryTimeStamp := by decide
  have h4 : pfcpIeCreatedPdr ≠ pfcpIeRecoveryTimeStamp := by decide
  rcases List.mem_append.mp hie with hie | hie
  · simp only [List.mem_cons, List.not_mem_nil, or_false] at hie
    rcases hie with rfl | rfl | rfl
    · exact ⟨by simp [Ipv4Addr.octets], h1⟩
    · exact ⟨by simp, h2⟩
    · exact ⟨by simp [Ipv4Addr.octets, u64ToBe, length_bytesBe], h3⟩
  · obtain ⟨p, -, rfl⟩ := List.mem_map.mp hie
    exact ⟨by simp [length_createdPdrBytes], h4⟩

theorem stamps_sessionReportRequest (seq : UInt32) (cpSeid : UInt64) (urrId urSeqn : UInt32)
    (trigger : UInt8) (total ul dl : UInt64) :
    stamps (buildSessionReportRequest seq cpSeid urrId urSeqn trigger total ul dl) = [] := by
  unfold buildSessionReportRequest
  simp only
  generalize hur : appendIe _ pfcpIeVolumeMeasurement _ = ur
  have hlen : ur.length < 65536 := by
    rw [← hur]
    simp [appendIe, u16ToBe, u32ToBe, u64ToBe, length_bytesBe]
  have hies : appendIe (appendIe (PfcpHeader.newSessionMsg pfcpSessionReportReq cpSeid seq).encode
      pfcpIeReportType [reportTypeUsar]) pfcpIeUsageReportInSessRptReq ur =
      (PfcpHeader.newSessionMsg pfcpSessionReportReq cpSeid seq).encode ++
        [(pfcpIeReportType, [reportTypeUsar]), (pfcpIeUsageReportInSessRptReq, ur)].flatMap
          ieBytes := by
    simp [appendIe_eq]
  have h1 : pfcpIeReportType ≠ pfcpIeRecoveryTimeStamp := by decide
  have h2 : pfcpIeUsageReportInSessRptReq ≠ pfcpIeRecoveryTimeStamp := by decide
  rw [hies]
  exact stamps_sessionMsg_eq_nil (by simp [h1, h2, hlen])

end UpfEdge.Pfcp
