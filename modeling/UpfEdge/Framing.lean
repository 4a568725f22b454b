import UpfEdge.Pfcp.Wire
import UpfEdge.SmfSim

/-!
# Where a message ends

The header of a message declares its length, and with the FO flag that another message follows.
Neither is looked at: a handler gets every octet behind the header, and `iter_ies` reads IEs from
them until fewer than four are left or one declares more than are left (`wholeIes`).

So the answer to a datagram and the state it leaves depend on the type, the SEID and the sequence
number in its header and on the whole IEs behind it, and on nothing else
(`handleMessage_reads_whole_ies`); and only a datagram too short for its own header is refused for
its length.
-/

namespace UpfEdge

open Lib Pfcp Server

/-! ### Whole IEs -/

/-- The number of octets `iter_ies` gets through. -/
def wholeLength : Bytes → ℕ
  | _ :: _ :: l₀ :: l₁ :: rest =>
    let length := (u16OfBe [l₀, l₁]).toNat
    if rest.length < length then 0 else 4 + length + wholeLength (rest.drop length)
  | _ => 0
termination_by buf => buf.length
decreasing_by
  simp only [List.length_drop, List.length_cons]
  omega

/-- The octets of the whole IEs a body starts with. -/
def wholeIes (body : Bytes) : Bytes := body.take (wholeLength body)

/-- What stands behind the whole IEs is never read. -/
theorem iterIes_wholeIes (body : Bytes) : iterIes (wholeIes body) = iterIes body := by
  induction body using wholeLength.induct with
  | case1 t₀ t₁ l₀ l₁ rest length hroom =>
    have hwhole : wholeIes (t₀ :: t₁ :: l₀ :: l₁ :: rest) = [] := by
      rw [wholeIes, wholeLength]
      exact congrArg (List.take · _) (if_pos hroom)
    rw [hwhole, iterIes_cons, if_pos hroom, iterIes_of_short (by simp)]
  | case2 t₀ t₁ l₀ l₁ rest length hroom ih =>
    have hlen : (rest.take length).length = length := by
      rw [List.length_take]
      omega
    have hwhole : wholeIes (t₀ :: t₁ :: l₀ :: l₁ :: rest) =
        t₀ :: t₁ :: l₀ :: l₁ :: (rest.take length ++ wholeIes (rest.drop length)) := by
      rw [wholeIes, wholeLength]
      refine (congrArg (List.take · _) (if_neg hroom)).trans ?_
      have h4 : 4 + length + wholeLength (rest.drop length) =
          length + wholeLength (rest.drop length) + 4 := by omega
      rw [h4]
      simp only [List.take_succ_cons, List.take_add, wholeIes]
    rw [hwhole, iterIes_cons, iterIes_cons, if_neg hroom,
      if_neg (by rw [List.length_append, hlen]; omega), List.take_left' hlen, List.drop_left' hlen,
      ih]
  | case3 buf hbuf =>
    have hwhole : wholeIes buf = [] := by
      rw [wholeIes, wholeLength.eq_2 buf hbuf, List.take_zero]
    have hshort : ¬ 4 ≤ buf.length := by
      intro h4
      match buf, h4 with
      | t₀ :: t₁ :: l₀ :: l₁ :: rest, _ => exact hbuf t₀ t₁ l₀ l₁ rest rfl
    rw [hwhole, iterIes_of_short hshort, iterIes_of_short (by simp)]

theorem iterIes_congr {b₁ b₂ : Bytes} (h : wholeIes b₁ = wholeIes b₂) :
    iterIes b₁ = iterIes b₂ := by
  rw [← iterIes_wholeIes b₁, h, iterIes_wholeIes b₂]

/-! ### What a datagram says -/

/-- Two datagrams that no handler can tell apart: each has a header, the headers have the same type,
SEID and sequence number, and the same whole IEs stand behind them. -/
def SameMessage (d₁ d₂ : Bytes) : Prop :=
  ∃ h₁ b₁ h₂ b₂, PfcpHeader.decode d₁ = .ok (h₁, b₁) ∧ PfcpHeader.decode d₂ = .ok (h₂, b₂) ∧
    h₁.msgType = h₂.msgType ∧ h₁.seid = h₂.seid ∧ h₁.seqNum = h₂.seqNum ∧
    wholeIes b₁ = wholeIes b₂

/-- Too short for a header: for the eight octets every message has, or for the sixteen of one that
says it has a SEID. -/
def TooShort (data : Bytes) : Prop :=
  data.length < 8 ∨ ∃ flags, data.head? = some flags ∧ flags >>> 5 = pfcpVersion ∧
    flags &&& pfcpSFlag ≠ 0 ∧ data.length < 16

section Dispatch

variable {e : Endian} {env : Env} {h₁ h₂ : PfcpHeader} {b₁ b₂ : Bytes} {src : SocketAddr}
  {w : World}

/-- A handler sees a header's type, SEID and sequence number, and the IEs of the body. -/
theorem dispatch_congr (htype : h₁.msgType = h₂.msgType) (hseid : h₁.seid = h₂.seid)
    (hseq : h₁.seqNum = h₂.seqNum) (hies : iterIes b₁ = iterIes b₂) :
    dispatch e env h₁ b₁ src w = dispatch e env h₂ b₂ src w := by
  have hheartbeat : HeartbeatReq.decode b₁ = HeartbeatReq.decode b₂ := by
    unfold HeartbeatReq.decode
    rw [hies]
  have hsetup : AssociationSetupReq.decode b₁ = AssociationSetupReq.decode b₂ := by
    unfold AssociationSetupReq.decode
    rw [hies]
  have hest : SessionEstablishmentReq.decode b₁ = SessionEstablishmentReq.decode b₂ := by
    unfold SessionEstablishmentReq.decode
    rw [hies]
  have hmod : SessionModificationReq.decode b₁ = SessionModificationReq.decode b₂ := by
    unfold SessionModificationReq.decode
    rw [hies]
  unfold dispatch handleHeartbeat handleSessionAssociation handleSessionEstablishment
    handleSessionModification handleSessionDeletion
  rw [htype, hseid, hseq, hheartbeat, hsetup, hest, hmod]

theorem deletionLock_ne_header (seid : UInt64) (err : PfcpError) :
    (deletionLock env seid src w).1 ≠ .error (.header err) := by
  intro h
  unfold deletionLock at h
  repeat' split at h
  all_goals cases h

/-- A handler never complains about the header. -/
theorem dispatch_ne_header (err : PfcpError) :
    (dispatch e env h₁ b₁ src w).1 ≠ .error (.header err) := by
  intro h
  unfold dispatch at h
  split_ifs at h
  · cases h
  · unfold handleSessionAssociation at h
    split at h
    · cases h
    · dsimp only at h
      split_ifs at h
  · unfold handleSessionEstablishment at h
    dsimp only at h
    repeat' split at h
    all_goals cases h
  · unfold handleSessionModification at h
    repeat' split at h
    all_goals cases h
  · have hlock : (deletionLock env (h₁.seid.getD 0) src w).1 ≠ .error (.header err) :=
      deletionLock_ne_header _ err
    rcases hout : deletionLock env (h₁.seid.getD 0) src w with ⟨r, w'⟩
    rw [hout] at hlock
    cases r with
    | error err' =>
      simp only [handleSessionDeletion, hout] at h
      exact hlock (congrArg _ (Except.error.inj h))
    | ok data =>
      simp only [handleSessionDeletion, hout] at h
      cases h
  all_goals cases h

end Dispatch

/-- The header decoder finds a buffer too short exactly when it is. -/
theorem decode_tooShort_iff (data : Bytes) :
    (∃ need had, PfcpHeader.decode data = .error (.bufferTooShort need had)) ↔ TooShort data := by
  unfold PfcpHeader.decode TooShort
  by_cases h8 : data.length < 8
  · simp [h8]
  rw [dif_neg h8]
  have hhead : data.head? = some data[0] := by rw [List.head?_eq_getElem?, List.getElem?_eq_getElem]
  simp only [h8, false_or, hhead, Option.some.injEq, exists_eq_left']
  by_cases hversion : data[0] >>> 5 ≠ pfcpVersion
  · simp [hversion]
  · rw [if_neg hversion]
    rw [ne_eq, not_not] at hversion
    by_cases hs : data[0] &&& pfcpSFlag ≠ 0
    · by_cases h16 : data.length < 16
      · simp [hs, h16, hversion]
      · simp [hs, h16]
    · simp [hs]

section Handle

variable (e : Endian) (env : Env) (src : SocketAddr) (w : World)

/-- The length in the header says where the message ends: octets behind that end make no difference,
and a datagram that stops before it is refused. -/
def DeclaredOnly : Prop :=
  (∀ d₁ d₂ header body, PfcpHeader.decode d₁ = .ok (header, body) →
      4 + header.length.toNat ≤ d₁.length → 4 + header.length.toNat ≤ d₂.length →
      d₁.take (4 + header.length.toNat) = d₂.take (4 + header.length.toNat) →
      handleMessage e env d₁ src w = handleMessage e env d₂ src w) ∧
    ∀ d header body, PfcpHeader.decode d = .ok (header, body) →
      d.length < 4 + header.length.toNat → ∃ err, (handleMessage e env d src w).1 = .error err

/-- **The header's type, SEID and sequence number and the whole IEs behind it are all that counts of
a datagram**, and it is refused for its length exactly when it is too short for its header. -/
theorem handleMessage_reads_whole_ies :
    (∀ d₁ d₂, SameMessage d₁ d₂ →
        handleMessage e env d₁ src w = handleMessage e env d₂ src w) ∧
      (∀ d, (∃ need had, (handleMessage e env d src w).1 =
        .error (.header (.bufferTooShort need had))) ↔ TooShort d) ∧
      ∀ d, TooShort d → (handleMessage e env d src w).2 = w := by
  refine ⟨?_, fun d => ?_, fun d hshort => ?_⟩
  · rintro d₁ d₂ ⟨h₁, b₁, h₂, b₂, hd₁, hd₂, htype, hseid, hseq, hies⟩
    simp only [handleMessage, hd₁, hd₂]
    exact dispatch_congr htype hseid hseq (iterIes_congr hies)
  · rw [← decode_tooShort_iff]
    unfold handleMessage
    cases hd : PfcpHeader.decode d with
    | error err =>
      constructor
      · rintro ⟨need, had, h⟩
        exact ⟨need, had, congrArg _ (HandleError.header.inj (Except.error.inj h))⟩
      · rintro ⟨need, had, h⟩
        exact ⟨need, had, by rw [Except.error.inj h]⟩
    | ok p =>
      constructor
      · rintro ⟨need, had, h⟩
        exact absurd h (dispatch_ne_header _)
      · rintro ⟨need, had, h⟩
        cases h
  · obtain ⟨need, had, hd⟩ := (decode_tooShort_iff d).mpr hshort
    simp only [handleMessage, hd]

end Handle

/-- A Heartbeat Request that declares no IE, and the same with a Recovery Time Stamp behind its
declared end. -/
def SmfSim.bareHeartbeat : Bytes := finish (PfcpHeader.newNodeMsg pfcpHeartbeatReq 1).encode

def SmfSim.paddedHeartbeat : Bytes :=
  SmfSim.bareHeartbeat ++ ieBytes (pfcpIeRecoveryTimeStamp, u32ToBe 6)

section Sim

open SmfSim

/-- Two octets behind the heartbeat are no IE, and five octets are no header. -/
theorem handleMessage_reads_whole_ies_rest :
    handleMessage host.endian env bareHeartbeat (peer smfA) (Audit.init boot).world =
        handleMessage host.endian env (bareHeartbeat ++ [0, 96]) (peer smfA)
          (Audit.init boot).world ∧
      (∃ need had, (handleMessage host.endian env (bareHeartbeat.take 5) (peer smfA)
        (Audit.init boot).world).1 = .error (.header (.bufferTooShort need had))) ∧
      (handleMessage host.endian env (bareHeartbeat.take 5) (peer smfA)
        (Audit.init boot).world).2 = (Audit.init boot).world := by
  have hbare : (PfcpHeader.decode bareHeartbeat).toOption.map (fun p =>
      (p.1.msgType, p.1.seid, p.1.seqNum, wholeIes p.2)) =
      some (pfcpHeartbeatReq, none, 1, []) := by decide +kernel
  have hrest : (PfcpHeader.decode (bareHeartbeat ++ [0, 96])).toOption.map (fun p =>
      (p.1.msgType, p.1.seid, p.1.seqNum, wholeIes p.2)) =
      some (pfcpHeartbeatReq, none, 1, []) := by decide +kernel
  have hsame : SameMessage bareHeartbeat (bareHeartbeat ++ [0, 96]) := by
    obtain ⟨⟨h₁, b₁⟩, hd₁, heq₁⟩ := Option.map_eq_some_iff.mp hbare
    obtain ⟨⟨h₂, b₂⟩, hd₂, heq₂⟩ := Option.map_eq_some_iff.mp hrest
    simp only [Prod.mk.injEq] at heq₁ heq₂
    obtain ⟨htype₁, hseid₁, hseq₁, hies₁⟩ := heq₁
    obtain ⟨htype₂, hseid₂, hseq₂, hies₂⟩ := heq₂
    exact ⟨h₁, b₁, h₂, b₂, ok_of_toOption hd₁, ok_of_toOption hd₂, htype₁.trans htype₂.symm,
      hseid₁.trans hseid₂.symm, hseq₁.trans hseq₂.symm, hies₁.trans hies₂.symm⟩
  have hshort : TooShort (bareHeartbeat.take 5) := .inl (by decide)
  obtain ⟨hcongr, hrefused, hkept⟩ :=
    handleMessage_reads_whole_ies host.endian env (peer smfA) (Audit.init boot).world
  exact ⟨hcongr _ _ hsame, (hrefused _).mpr hshort, hkept _ hshort⟩

end Sim

/-- The stamp behind the end is taken for the SMF's: its association gets it and loses its
sessions. -/
theorem not_declaredOnly :
    ¬ DeclaredOnly SmfSim.host.endian SmfSim.env (SmfSim.peer SmfSim.smfA)
      (Audit.after SmfSim.host SmfSim.boot
        [SmfSim.setup SmfSim.smfA 5, SmfSim.establish SmfSim.smfA 7 SmfSim.ue1]).world := by
  intro h
  have hmsg : (PfcpHeader.decode SmfSim.bareHeartbeat).toOption.map (fun p => p.1.length) =
    some 4 := by decide +kernel
  cases hd : PfcpHeader.decode SmfSim.bareHeartbeat with
  | error err =>
    rw [hd] at hmsg
    cases hmsg
  | ok p =>
    obtain ⟨header, body⟩ := p
    rw [hd] at hmsg
    have hlen : header.length = 4 := Option.some.inj hmsg
    have hsame := h.1 SmfSim.bareHeartbeat SmfSim.paddedHeartbeat header body hd
      (by rw [hlen]; decide) (by rw [hlen]; decide) (by rw [hlen]; decide)
    have hstamp := congrArg (fun out : Outcome =>
      (out.2.srv.associations.lookup SmfSim.smfA).map (·.recoveryTs)) hsame
    exact absurd hstamp (by decide +kernel)

end UpfEdge
