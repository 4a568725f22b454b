import UpfEdge.Pfcp.Checked
import UpfEdge.Pfcp.Wire

/-!
# The TLV iterator

What `iter_ies` makes of a buffer, whatever stands in it: the IEs it returns are the ones the buffer
starts with, octet by octet, and it stops only where no further IE fits (`iterIes_leading`).  Each
of them says how long its value is, and the IEs inside a grouped one are again those of its value,
at every depth (`RawIE.Exact`).  `iterIes_exact` adds that the loop ends and that it undoes
`append_ie`.
-/

namespace UpfEdge.Pfcp

open Lib

/-! ### The IEs of a buffer -/

/-- The octets an IE was read from. -/
def RawIE.bytes (ie : RawIE) : Bytes := u16ToBe ie.ieType ++ u16ToBe ie.length ++ ie.value

/-- The length is that of the value, and the IEs inside are those of the value of a grouped IE, none
otherwise; at every depth. -/
inductive RawIE.Exact : RawIE → Prop
  | mk {t l : UInt16} {v : Bytes} {sub : List RawIE} (length : l.toNat = v.length)
    (subIe : sub = if isGroupedIe t then iterIes v else [])
    (nested : ∀ ie ∈ sub, Exact ie) : Exact (.mk t l v sub)

/-- No IE starts here: there is no room for its type and length, or for the value it declares. -/
def Truncated (rest : Bytes) : Prop :=
  rest.length < 4 ∨ ∃ t₀ t₁ l₀ l₁ tail, rest = t₀ :: t₁ :: l₀ :: l₁ :: tail ∧
    tail.length < (u16OfBe [l₀, l₁]).toNat

/-- Induction along the loop, into values and behind them. -/
theorem tlv_induction {P : Bytes → Prop} (short : ∀ buf : Bytes, buf.length < 4 → P buf)
    (cut : ∀ t₀ t₁ l₀ l₁ (tail : Bytes), tail.length < (u16OfBe [l₀, l₁]).toNat →
      P (t₀ :: t₁ :: l₀ :: l₁ :: tail))
    (whole : ∀ t₀ t₁ l₀ l₁ (value rest : Bytes), value.length = (u16OfBe [l₀, l₁]).toNat →
      P value → P rest → P (t₀ :: t₁ :: l₀ :: l₁ :: (value ++ rest))) (buf : Bytes) : P buf := by
  induction hn : buf.length using Nat.strong_induction_on generalizing buf with
  | _ n ih =>
    match buf, hn with
    | t₀ :: t₁ :: l₀ :: l₁ :: tail, hn =>
      simp only [List.length_cons] at hn
      by_cases hroom : tail.length < (u16OfBe [l₀, l₁]).toNat
      · exact cut t₀ t₁ l₀ l₁ tail hroom
      · rw [← List.take_append_drop (u16OfBe [l₀, l₁]).toNat tail]
        have hvalue : (tail.take (u16OfBe [l₀, l₁]).toNat).length = (u16OfBe [l₀, l₁]).toNat := by
          rw [List.length_take]
          omega
        have hrest : (tail.drop (u16OfBe [l₀, l₁]).toNat).length < n := by
          rw [List.length_drop]
          omega
        exact whole t₀ t₁ l₀ l₁ _ _ hvalue (ih _ (by omega) _ rfl) (ih _ hrest _ rfl)
    | [], _ | [_], _ | [_, _], _ | [_, _, _], _ => exact short _ (by simp)

/-- The loop at an IE that is there whole. -/
theorem iterIes_whole (t₀ t₁ l₀ l₁ : UInt8) {value : Bytes} (rest : Bytes)
    (h : value.length = (u16OfBe [l₀, l₁]).toNat) :
    iterIes (t₀ :: t₁ :: l₀ :: l₁ :: (value ++ rest)) =
      .mk (u16OfBe [t₀, t₁]) (u16OfBe [l₀, l₁]) value
          (if isGroupedIe (u16OfBe [t₀, t₁]) then iterIes value else []) :: iterIes rest := by
  have hroom : ¬ (value ++ rest).length < (u16OfBe [l₀, l₁]).toNat := by
    rw [List.length_append]
    omega
  rw [iterIes_cons, if_neg hroom, List.take_left' h, List.drop_left' h, UInt16.ofNat_toNat]

/-- **The IEs are a prefix of the buffer**, and it goes on with something that is no IE. -/
theorem iterIes_leading (buf : Bytes) :
    ∃ rest, buf = (iterIes buf).flatMap RawIE.bytes ++ rest ∧ Truncated rest := by
  induction buf using tlv_induction with
  | short buf h =>
    rw [iterIes_of_short (by omega)]
    exact ⟨buf, rfl, .inl h⟩
  | cut t₀ t₁ l₀ l₁ tail h =>
    rw [iterIes_cons, if_pos h]
    exact ⟨_, rfl, .inr ⟨t₀, t₁, l₀, l₁, tail, rfl, h⟩⟩
  | whole t₀ t₁ l₀ l₁ value rest h _ ih =>
    obtain ⟨rest', heq, htrunc⟩ := ih
    have ht : u16ToBe (u16OfBe [t₀, t₁]) = [t₀, t₁] := u16ToBe_u16OfBe rfl
    have hl : u16ToBe (u16OfBe [l₀, l₁]) = [l₀, l₁] := u16ToBe_u16OfBe rfl
    refine ⟨rest', ?_, htrunc⟩
    rw [iterIes_whole t₀ t₁ l₀ l₁ rest h, List.flatMap_cons, List.append_assoc, ← heq]
    simp [RawIE.bytes, RawIE.ieType, RawIE.length, RawIE.value, ht, hl]

/-- **Every IE is what its octets say**, to any depth. -/
theorem iterIes_all_exact (buf : Bytes) : ∀ ie ∈ iterIes buf, ie.Exact := by
  induction buf using tlv_induction with
  | short buf h =>
    rw [iterIes_of_short (by omega)]
    exact List.forall_mem_nil _
  | cut t₀ t₁ l₀ l₁ tail h =>
    rw [iterIes_cons, if_pos h]
    exact List.forall_mem_nil _
  | whole t₀ t₁ l₀ l₁ value rest h ihv ihr =>
    rw [iterIes_whole t₀ t₁ l₀ l₁ rest h, List.forall_mem_cons]
    refine ⟨.mk h.symm rfl fun ie hie => ?_, ihr⟩
    split_ifs at hie
    · exact ihv ie hie
    · cases hie

/-! ### The IEs of a list -/

/-- The IE a receiver reads for a type and a value. -/
def RawIE.of (ie : UInt16 × Bytes) : RawIE :=
  .mk ie.1 (UInt16.ofNat ie.2.length) ie.2 (if isGroupedIe ie.1 then iterIes ie.2 else [])

theorem foldl_appendIe (ies : List (UInt16 × Bytes)) (buf : Bytes) :
    ies.foldl (fun buf ie => appendIe buf ie.1 ie.2) buf = buf ++ ies.flatMap ieBytes := by
  induction ies generalizing buf with
  | nil => simp
  | cons ie ies ih => rw [List.foldl_cons, ih, appendIe_eq, List.flatMap_cons, List.append_assoc]

/-- **A list of IEs is read back whole.** -/
theorem iterIes_map_of {ies : List (UInt16 × Bytes)} (h : ∀ ie ∈ ies, ie.2.length ≤ 65535) :
    iterIes (ies.flatMap ieBytes) = ies.map RawIE.of := by
  induction ies with
  | nil => exact iterIes_of_short (by simp)
  | cons ie ies ih =>
    have hie := h ie (List.mem_cons_self ..)
    rw [List.flatMap_cons, iterIes_ieBytes_append (by omega),
      ih fun ie' hie' => h ie' (List.mem_cons_of_mem _ hie'), List.map_cons]
    rfl

/-- **TLV iteration is exact.**  On every buffer the loop ends, with turns to spare, and returns the
whole IEs that the buffer starts with, down to the ones inside grouped ones; and it gives back every
list of IEs that `append_ie` has written. -/
theorem iterIes_exact :
    (∀ buf : Bytes,
      (∃ n, ∀ k, n ≤ k → Checked.iterIes k buf = .ok (iterIes buf)) ∧
      (∃ rest, buf = (iterIes buf).flatMap RawIE.bytes ++ rest ∧ Truncated rest) ∧
      ∀ ie ∈ iterIes buf, ie.Exact) ∧
    ∀ ies : List (UInt16 × Bytes), (∀ ie ∈ ies, ie.2.length ≤ 65535) →
      iterIes (ies.foldl (fun buf ie => appendIe buf ie.1 ie.2) []) = ies.map RawIE.of := by
  constructor
  · intro buf
    refine ⟨⟨buf.length + 1, fun k hk => Checked.iterIes_eq ?_⟩, iterIes_leading buf,
      iterIes_all_exact buf⟩
    omega
  · intro ies h
    rw [foldl_appendIe, List.nil_append, iterIes_map_of h]

/-- A Create PDR that holds a PDI that holds an empty PDI. -/
theorem iterIes_exact_nested :
    (∀ ie ∈ [(pfcpIeCreatePdr, [0, 2, 0, 4, 0, 2, 0, 0]), (pfcpIeNodeId, ([] : Bytes))],
      ie.2.length ≤ 65535) ∧
    iterIes ([(pfcpIeCreatePdr, [0, 2, 0, 4, 0, 2, 0, 0]), (pfcpIeNodeId, [])].foldl
        (fun buf ie => appendIe buf ie.1 ie.2) []) =
      [RawIE.of (pfcpIeCreatePdr, [0, 2, 0, 4, 0, 2, 0, 0]), RawIE.of (pfcpIeNodeId, [])] := by
  have h : ∀ ie ∈ [(pfcpIeCreatePdr, [0, 2, 0, 4, 0, 2, 0, 0]), (pfcpIeNodeId, ([] : Bytes))],
    ie.2.length ≤ 65535 := by decide
  exact ⟨h, iterIes_exact.2 _ h⟩

end UpfEdge.Pfcp
