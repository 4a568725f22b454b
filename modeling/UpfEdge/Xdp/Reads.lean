import UpfEdge.Xdp.Programs

/-!
# What the programs read of a frame

A read succeeds when the frame reaches as far, and returns the bytes that stand there.  Proofs
about the two parsers go by these lemmas and by the lengths they give.
-/

namespace UpfEdge.Xdp

open Lib

/-! ### Reads that fit -/

theorem ptrAt_isSome {f : Bytes} {offset len : ℕ} :
    (ptrAt f offset len).isSome ↔ offset + len ≤ f.length := by
  unfold ptrAt
  split_ifs with h
  · exact iff_of_false (by simp) (by omega)
  · exact iff_of_true rfl (by omega)

theorem readU16_isSome {e : Endian} {f : Bytes} {offset : ℕ} :
    (readU16 e f offset).isSome ↔ offset + 2 ≤ f.length := by
  rw [readU16, Option.isSome_map, ptrAt_isSome]

theorem readBe16_isSome {e : Endian} {f : Bytes} {offset : ℕ} :
    (readBe16 e f offset).isSome ↔ offset + 2 ≤ f.length := by
  rw [readBe16, Option.isSome_map, readU16_isSome]

section Reads

variable {e : Endian} {f : Bytes} {n k : ℕ}

/-- A read inside the frame succeeds. -/
theorem ptrAt_of_le (h : n + k ≤ f.length) : ∃ bs, ptrAt f n k = some bs :=
  Option.isSome_iff_exists.mp (ptrAt_isSome.mpr h)

theorem readU32_of_le (h : n + 4 ≤ f.length) : ∃ v, readU32 e f n = some v := by
  obtain ⟨bs, hbs⟩ := ptrAt_of_le h
  exact ⟨_, by rw [readU32, hbs]; rfl⟩

theorem readU16_of_le (h : n + 2 ≤ f.length) : ∃ v, readU16 e f n = some v :=
  Option.isSome_iff_exists.mp (readU16_isSome.mpr h)

theorem readU8_of_le (h : n + 1 ≤ f.length) : ∃ v, readU8 f n = some v := by
  obtain ⟨bs, hbs⟩ := ptrAt_of_le h
  have hlen : bs.length = 1 := by
    unfold ptrAt at hbs
    split_ifs at hbs
    rw [← Option.some.inj hbs]
    exact length_slice h
  obtain ⟨b, rfl⟩ := List.length_eq_one_iff.mp hlen
  exact ⟨b, by rw [readU8, hbs]; rfl⟩

theorem innerPorts_of_le (h : n + 24 ≤ f.length) (proto : UInt8) :
    ∃ ports, innerPorts e f n proto = some ports := by
  obtain ⟨sp, hsp⟩ : ∃ v, readU16 e f (n + 20) = some v := readU16_of_le (by omega)
  obtain ⟨dp, hdp⟩ : ∃ v, readU16 e f (n + 22) = some v := readU16_of_le (by omega)
  unfold innerPorts
  split_ifs
  · exact ⟨(sp, dp), by rw [hsp, hdp]; rfl⟩
  · exact ⟨(0, 0), rfl⟩

/-! ### The bytes read -/

theorem ptrAt_eq_some {f bs : Bytes} {offset n : ℕ} (h : ptrAt f offset n = some bs) :
    offset + n ≤ f.length ∧ bs = (f.drop offset).take n := by
  unfold ptrAt at h
  split_ifs at h with hlen
  exact ⟨by omega, (Option.some.inj h).symm⟩

theorem readU8_eq_some (start offset : ℕ) {b : UInt8} (h : readU8 f (start + offset) = some b) :
    b = ((f.drop start).drop offset).headD 0 := by
  obtain ⟨bs, hbs, hhead⟩ := Option.bind_eq_some_iff.mp h
  obtain ⟨-, rfl⟩ := ptrAt_eq_some hbs
  rw [List.drop_drop]
  cases hd : f.drop (start + offset) with
  | nil =>
    rw [hd] at hhead
    cases hhead
  | cons c cs =>
    rw [hd] at hhead
    exact (Option.some.inj hhead).symm

theorem readU16_eq_some (start offset : ℕ) {x : UInt16}
    (h : readU16 e f (start + offset) = some x) :
    start + offset + 2 ≤ f.length ∧ x = e.load16 (((f.drop start).drop offset).take 2) := by
  obtain ⟨bs, hbs, rfl⟩ := Option.map_eq_some_iff.mp h
  obtain ⟨hlen, rfl⟩ := ptrAt_eq_some hbs
  rw [List.drop_drop]
  exact ⟨hlen, rfl⟩

theorem readU32_eq_some (start offset : ℕ) {x : UInt32}
    (h : readU32 e f (start + offset) = some x) :
    x = e.load32 (((f.drop start).drop offset).take 4) := by
  obtain ⟨bs, hbs, rfl⟩ := Option.map_eq_some_iff.mp h
  obtain ⟨-, rfl⟩ := ptrAt_eq_some hbs
  rw [List.drop_drop]

section Append

variable (pre mid post : Bytes)

theorem ptrAt_append_mid (hpre : pre.length = n) (hmid : mid.length = k) :
    ptrAt (pre ++ (mid ++ post)) n k = some mid := by
  unfold ptrAt
  rw [if_neg (by simp only [List.length_append]; omega), ← hpre, List.drop_left, ← hmid,
    List.take_left]

theorem readBe16_append_mid {x : UInt16} (hpre : pre.length = n) :
    readBe16 e (pre ++ (e.store16 x ++ post)) n = some (e.toBe16 x) := by
  have hread := ptrAt_append_mid pre (e.store16 x) post hpre (length_store16 e x)
  rw [readBe16, readU16, hread, Option.map_some, Option.map_some, load16_store16]

theorem readU8_append_mid {b : UInt8} (hpre : pre.length = n) :
    readU8 (pre ++ ([b] ++ post)) n = some b := by
  have hmid : ([b] : Bytes).length = 1 := rfl
  rw [readU8, ptrAt_append_mid _ _ _ hpre hmid]
  rfl

end Append

end Reads

/-! ### The parsers -/

theorem parseUplink_length {e : Endian} {f : Bytes} {p : UplinkPacket}
    (h : parseUplink e f = some p) : 14 ≤ f.length := by
  unfold parseUplink at h
  obtain ⟨ethType, hread, -⟩ := Option.bind_eq_some_iff.mp h
  exact readBe16_isSome.mp (Option.isSome_of_eq_some hread)

theorem parseDownlink_length {e : Endian} {f : Bytes} {t : FiveTuple}
    (h : parseDownlink e f = some t) : 38 ≤ f.length := by
  simp only [parseDownlink, Option.bind_eq_bind, Option.bind_eq_some_iff] at h
  obtain ⟨_, -, _, -, _, -, _, -, _, -, _, -, dstPort, hread, -⟩ := h
  exact readU16_isSome.mp (Option.isSome_of_eq_some hread)

section Parsers

variable {e : Endian} {f : Bytes}

/-- What the uplink program reads behind the outer headers. -/
theorem parseUplink_reads {p : UplinkPacket} (h : parseUplink e f = some p) :
    readU8 f (p.outerTotal + 9) = some p.tuple.proto ∧
      readU32 e f (p.outerTotal + 12) = some p.tuple.srcIp ∧
      readU32 e f (p.outerTotal + 16) = some p.tuple.dstIp ∧
      innerPorts e f p.outerTotal p.tuple.proto = some (p.tuple.srcPort, p.tuple.dstPort) := by
  simp only [parseUplink, Option.bind_eq_bind, Option.bind_eq_some_iff] at h
  obtain ⟨_, -, _, -, _, -, _, -, _, -, _, -, _, -, _, -, _, -, _, -, src, hsrc, proto, hproto, dst,
    hdst, ports, hports, heq⟩ := h
  obtain rfl := (Option.some.inj heq).symm
  exact ⟨hproto, hsrc, hdst, hports⟩

end Parsers

end UpfEdge.Xdp
