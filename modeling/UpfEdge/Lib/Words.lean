import Mathlib.Data.Nat.Basic
import Mathlib.Tactic.Ring

/-!
# Machine words as bytes

`natOfBe` and `natOfLe` read a list of bytes as a number, most and least significant byte first;
`bytesBe n x` is the `n`-byte big-endian form of `x`.  A target's byte order (`Endian`) decides
what a raw load from memory reads (`Endian.load16`, `Endian.load32`) and what the conversion to
network order does to a register value (`Endian.toBe16`, `Endian.toBe32`).

The point of the network-order conversion is `toBe32_ofBe`: a number converted to network order
and compared with a raw load of its big-endian bytes agrees on either byte order.
-/

namespace Lib

abbrev Bytes : Type := List UInt8

/-- The number a list of bytes spells, most significant byte first. -/
def natOfBe (bs : Bytes) : ℕ := bs.foldl (fun n b => n * 256 + b.toNat) 0

/-- The number a list of bytes spells, least significant byte first. -/
def natOfLe (bs : Bytes) : ℕ := natOfBe bs.reverse

/-- The last `n` bytes of `x`, most significant first. -/
def bytesBe : ℕ → ℕ → Bytes
  | 0, _ => []
  | n + 1, x => UInt8.ofNat (x / 256 ^ n) :: bytesBe n x

def u16OfBe (bs : Bytes) : UInt16 := UInt16.ofNat (natOfBe bs)
def u32OfBe (bs : Bytes) : UInt32 := UInt32.ofNat (natOfBe bs)
def u64OfBe (bs : Bytes) : UInt64 := UInt64.ofNat (natOfBe bs)

def u16ToBe (x : UInt16) : Bytes := bytesBe 2 x.toNat
def u32ToBe (x : UInt32) : Bytes := bytesBe 4 x.toNat
def u64ToBe (x : UInt64) : Bytes := bytesBe 8 x.toNat

/-- The byte order of the target. -/
inductive Endian where
  | little
  | big
  deriving DecidableEq, Repr

namespace Endian

/-- The number a raw load of consecutive bytes reads. -/
def loadNat : Endian → Bytes → ℕ
  | little, bs => natOfLe bs
  | big, bs => natOfBe bs

def load16 (e : Endian) (bs : Bytes) : UInt16 := UInt16.ofNat (e.loadNat bs)
def load32 (e : Endian) (bs : Bytes) : UInt32 := UInt32.ofNat (e.loadNat bs)

/-- `to_be` on 16 bits: the register value whose memory image is the big-endian form of `x`. -/
def toBe16 (e : Endian) (x : UInt16) : UInt16 := e.load16 (u16ToBe x)

/-- `to_be` on 32 bits. -/
def toBe32 (e : Endian) (x : UInt32) : UInt32 := e.load32 (u32ToBe x)

/-- The bytes a raw store of a 16-bit register value writes. -/
def store16 : Endian → UInt16 → Bytes
  | little, x => (u16ToBe x).reverse
  | big, x => u16ToBe x

/-- The bytes a raw store of a 32-bit register value writes. -/
def store32 : Endian → UInt32 → Bytes
  | little, x => (u32ToBe x).reverse
  | big, x => u32ToBe x

end Endian

/-! ### Arithmetic that overflows

Each operation gives the wrapped result and whether it overflowed. -/

def overflowingAdd (a b : UInt32) : UInt32 × Bool := (a + b, decide (2 ^ 32 ≤ a.toNat + b.toNat))

def overflowingAddWide (a b : UInt64) : UInt64 × Bool :=
  (a + b, decide (2 ^ 64 ≤ a.toNat + b.toNat))

def overflowingSub (a b : UInt32) : UInt32 × Bool := (a - b, decide (a.toNat < b.toNat))

def overflowingMul (a b : UInt64) : UInt64 × Bool := (a * b, decide (2 ^ 64 ≤ a.toNat * b.toNat))

def overflowingPow (base : UInt64) (exp : UInt32) : UInt64 × Bool :=
  (UInt64.ofNat (base.toNat ^ exp.toNat), decide (2 ^ 64 ≤ base.toNat ^ exp.toNat))

/-- What an operation comes to: a build with overflow checks panics, any other takes the wrapped
result. -/
def settle {α : Type} (checks : Bool) (r : α × Bool) : Option α :=
  if checks && r.2 then none else some r.1

/-! ### Numbers and their bytes -/

theorem natOfBe_cons (b : UInt8) (bs : Bytes) :
    natOfBe (b :: bs) = b.toNat * 256 ^ bs.length + natOfBe bs := by
  have hfold : ∀ (bs : Bytes) (n : ℕ), bs.foldl (fun n b => n * 256 + b.toNat) n =
      n * 256 ^ bs.length + natOfBe bs := by
    intro bs
    induction bs with
    | nil => intro n; simp [natOfBe]
    | cons c bs ih =>
      intro n
      have hc : natOfBe (c :: bs) = c.toNat * 256 ^ bs.length + natOfBe bs := by
        rw [natOfBe, List.foldl_cons, ih]
        ring
      rw [List.foldl_cons, ih, hc, List.length_cons]
      ring
  rw [natOfBe, List.foldl_cons, hfold]
  ring

theorem natOfBe_lt (bs : Bytes) : natOfBe bs < 256 ^ bs.length := by
  induction bs with
  | nil => decide
  | cons b bs ih =>
    rw [natOfBe_cons, List.length_cons, pow_succ]
    have hb : b.toNat ≤ 255 := Nat.le_of_lt_succ b.toNat_lt
    have := Nat.mul_le_mul_right (256 ^ bs.length) hb
    omega

/-- Lists of one length are told apart by the numbers they spell. -/
theorem natOfBe_inj : ∀ {bs bs' : Bytes}, bs.length = bs'.length → natOfBe bs = natOfBe bs' →
    bs = bs'
  | [], [], _, _ => rfl
  | b :: bs, b' :: bs', hl, h => by
    have hl' : bs.length = bs'.length := Nat.succ.inj hl
    rw [natOfBe_cons, natOfBe_cons, ← hl'] at h
    have hr := natOfBe_lt bs
    have hr' := natOfBe_lt bs'
    rw [← hl'] at hr'
    have hpos : 0 < 256 ^ bs.length := Nat.pow_pos (by decide)
    have hb : b.toNat = b'.toNat := by
      have hdiv := congrArg (· / 256 ^ bs.length) h
      simp only [Nat.add_comm _ (natOfBe _), Nat.add_mul_div_right _ _ hpos,
        Nat.div_eq_of_lt hr, Nat.div_eq_of_lt hr', Nat.zero_add] at hdiv
      exact hdiv
    rw [hb] at h
    rw [UInt8.toNat_inj.mp hb, natOfBe_inj hl' (Nat.add_left_cancel h)]

theorem length_bytesBe (n x : ℕ) : (bytesBe n x).length = n := by
  induction n with
  | zero => rfl
  | succ n ih => rw [bytesBe, List.length_cons, ih]

theorem natOfBe_bytesBe (n x : ℕ) : natOfBe (bytesBe n x) = x % 256 ^ n := by
  induction n with
  | zero => rw [Nat.pow_zero, Nat.mod_one]; rfl
  | succ n ih =>
    have hsplit : x % 256 ^ (n + 1) = x % 256 ^ n + 256 ^ n * (x / 256 ^ n % 256) := Nat.mod_mul
    rw [bytesBe, natOfBe_cons, length_bytesBe, ih, UInt8.toNat_ofNat', hsplit, Nat.add_comm,
      Nat.mul_comm]

theorem bytesBe_natOfBe (bs : Bytes) : bytesBe bs.length (natOfBe bs) = bs := by
  apply natOfBe_inj (length_bytesBe ..)
  rw [natOfBe_bytesBe, Nat.mod_eq_of_lt (natOfBe_lt bs)]

/-- The bounds and the inverse, at a length that is known. -/
theorem natOfBe_lt_of_length {bs : Bytes} {n : ℕ} (h : bs.length = n) : natOfBe bs < 256 ^ n := by
  rw [← h]
  exact natOfBe_lt bs

theorem bytesBe_of_length {bs : Bytes} {n : ℕ} (h : bs.length = n) :
    bytesBe n (natOfBe bs) = bs := by
  rw [← h, bytesBe_natOfBe]

theorem length_slice {bs : Bytes} {i n : ℕ} (h : i + n ≤ bs.length) :
    ((bs.drop i).take n).length = n := by
  rw [List.length_take, List.length_drop]
  omega

theorem natOfBe_replicate_zero (n : ℕ) : natOfBe (List.replicate n 0) = 0 := by
  induction n with
  | zero => rfl
  | succ n ih =>
    rw [List.replicate_succ, natOfBe_cons, ih]
    simp

theorem natOfBe_u16ToBe (x : UInt16) : natOfBe (u16ToBe x) = x.toNat := by
  rw [u16ToBe, natOfBe_bytesBe, Nat.mod_eq_of_lt (by exact x.toNat_lt)]

theorem u16OfBe_u16ToBe (x : UInt16) : u16OfBe (u16ToBe x) = x := by
  rw [u16OfBe, natOfBe_u16ToBe, UInt16.ofNat_toNat]

/-- Two bytes are those of the number they spell. -/
theorem u16ToBe_u16OfBe {bs : Bytes} (h : bs.length = 2) : u16ToBe (u16OfBe bs) = bs := by
  have hlt : natOfBe bs < 2 ^ 16 := natOfBe_lt_of_length h
  rw [u16ToBe, u16OfBe, UInt16.toNat_ofNat_of_lt' hlt, bytesBe_of_length h]

theorem natOfBe_u32ToBe (x : UInt32) : natOfBe (u32ToBe x) = x.toNat := by
  rw [u32ToBe, natOfBe_bytesBe, Nat.mod_eq_of_lt (by exact x.toNat_lt)]

theorem u32OfBe_u32ToBe (x : UInt32) : u32OfBe (u32ToBe x) = x := by
  rw [u32OfBe, natOfBe_u32ToBe, UInt32.ofNat_toNat]

theorem natOfBe_u64ToBe (x : UInt64) : natOfBe (u64ToBe x) = x.toNat := by
  rw [u64ToBe, natOfBe_bytesBe, Nat.mod_eq_of_lt (by exact x.toNat_lt)]

theorem u64OfBe_u64ToBe (x : UInt64) : u64OfBe (u64ToBe x) = x := by
  rw [u64OfBe, natOfBe_u64ToBe, UInt64.ofNat_toNat]

theorem u64ToBe_u64OfBe {bs : Bytes} (h : bs.length = 8) : u64ToBe (u64OfBe bs) = bs := by
  have hlt : natOfBe bs < 2 ^ 64 := natOfBe_lt_of_length h
  rw [u64ToBe, u64OfBe, UInt64.toNat_ofNat_of_lt' hlt, bytesBe_of_length h]

theorem u64ToBe_eq (x : UInt64) : ∃ b₀ b₁ b₂ b₃ b₄ b₅ b₆ b₇,
    u64ToBe x = [b₀, b₁, b₂, b₃, b₄, b₅, b₆, b₇] := ⟨_, _, _, _, _, _, _, _, rfl⟩

/-- The low three bytes of a word, read behind a zero. -/
theorem u32OfBe_seq (seq : UInt32) :
    u32OfBe [0, (seq >>> 16).toUInt8, (seq >>> 8).toUInt8, seq.toUInt8] =
      UInt32.ofNat (seq.toNat % 2 ^ 24) := by
  have h1 : (seq >>> 16).toUInt8.toNat = seq.toNat / 65536 % 256 := by
    simp [Nat.shiftRight_eq_div_pow]
  have h2 : (seq >>> 8).toUInt8.toNat = seq.toNat / 256 % 256 := by
    simp [Nat.shiftRight_eq_div_pow]
  have h3 : seq.toUInt8.toNat = seq.toNat % 256 := by simp
  rw [u32OfBe]
  congr 1
  simp only [natOfBe, List.foldl_cons, List.foldl_nil, h1, h2, h3]
  have h0 : (0 : UInt8).toNat = 0 := rfl
  rw [h0]
  omega

theorem toNat_u32OfBe_three (b₀ b₁ b₂ : UInt8) :
    (u32OfBe [0, b₀, b₁, b₂]).toNat = b₀.toNat * 65536 + b₁.toNat * 256 + b₂.toNat := by
  have h₀ := b₀.toNat_lt
  have h₁ := b₁.toNat_lt
  have h₂ := b₂.toNat_lt
  have hval : natOfBe [0, b₀, b₁, b₂] = b₀.toNat * 65536 + b₁.toNat * 256 + b₂.toNat := by
    simp [natOfBe]
    ring
  rw [u32OfBe, hval, UInt32.toNat_ofNat_of_lt']
  simp only [UInt32.size]
  omega

theorem toNat_u32OfBe_three_lt (b₀ b₁ b₂ : UInt8) :
    (u32OfBe [0, b₀, b₁, b₂]).toNat < 2 ^ 24 := by
  have h₀ := b₀.toNat_lt
  have h₁ := b₁.toNat_lt
  have h₂ := b₂.toNat_lt
  rw [toNat_u32OfBe_three]
  omega

/-- The bytes of a word that was read from three of them. -/
theorem octets_u32OfBe (b₀ b₁ b₂ : UInt8) :
    (u32OfBe [0, b₀, b₁, b₂] >>> 16).toUInt8 = b₀ ∧ (u32OfBe [0, b₀, b₁, b₂] >>> 8).toUInt8 = b₁ ∧
      (u32OfBe [0, b₀, b₁, b₂]).toUInt8 = b₂ := by
  have h₀ := b₀.toNat_lt
  have h₁ := b₁.toNat_lt
  have h₂ := b₂.toNat_lt
  refine ⟨?_, ?_, ?_⟩
  all_goals
    apply UInt8.toNat_inj.mp
    simp only [UInt32.toNat_toUInt8, UInt32.toNat_shiftRight, toNat_u32OfBe_three,
      Nat.shiftRight_eq_div_pow, UInt32.reduceToNat, Nat.reduceMod, Nat.reducePow]
    omega

/-- What holds of the numbers below 256 holds of every byte. -/
theorem forall_octet {P : UInt8 → Prop} (h : ∀ n : Fin 256, P (UInt8.ofNat n)) (b : UInt8) :
    P b := by
  have hb := h ⟨b.toNat, b.toNat_lt⟩
  rwa [UInt8.ofNat_toNat] at hb

/-! ### Network order -/

/-- A value converted to network order is what a raw load of its big-endian bytes reads. -/
theorem toBe32_ofBe (e : Endian) {bs : Bytes} (h : bs.length = 4) :
    e.toBe32 (u32OfBe bs) = e.load32 bs := by
  have hlt : natOfBe bs < 2 ^ 32 := natOfBe_lt_of_length h
  rw [Endian.toBe32, u32OfBe, u32ToBe, UInt32.toNat_ofNat_of_lt' hlt, bytesBe_of_length h]

/-- A raw load of some bytes reads a number below their range. -/
theorem loadNat_lt (e : Endian) {bs : Bytes} {n : ℕ} (h : bs.length = n) :
    e.loadNat bs < 256 ^ n := by
  cases e with
  | little => exact natOfBe_lt_of_length (List.length_reverse.trans h)
  | big => exact natOfBe_lt_of_length h

/-- A raw load loses nothing. -/
theorem loadNat_inj (e : Endian) {bs bs' : Bytes} (hl : bs.length = bs'.length)
    (h : e.loadNat bs = e.loadNat bs') : bs = bs' := by
  cases e with
  | little =>
    have hrev : bs.reverse.length = bs'.reverse.length := by
      rw [List.length_reverse, List.length_reverse, hl]
    exact List.reverse_inj.mp (natOfBe_inj hrev h)
  | big => exact natOfBe_inj hl h

theorem load16_inj (e : Endian) {bs bs' : Bytes} (h2 : bs.length = 2) (h2' : bs'.length = 2)
    (h : e.load16 bs = e.load16 bs') : bs = bs' := by
  have h' := congrArg UInt16.toNat h
  rw [Endian.load16, Endian.load16, UInt16.toNat_ofNat_of_lt' (loadNat_lt e h2),
    UInt16.toNat_ofNat_of_lt' (loadNat_lt e h2')] at h'
  exact loadNat_inj e (h2.trans h2'.symm) h'

theorem load32_inj (e : Endian) {bs bs' : Bytes} (h4 : bs.length = 4) (h4' : bs'.length = 4)
    (h : e.load32 bs = e.load32 bs') : bs = bs' := by
  have h' := congrArg UInt32.toNat h
  rw [Endian.load32, Endian.load32, UInt32.toNat_ofNat_of_lt' (loadNat_lt e h4),
    UInt32.toNat_ofNat_of_lt' (loadNat_lt e h4')] at h'
  exact loadNat_inj e (h4.trans h4'.symm) h'

/-- Two loads of `n` bytes that lose nothing compare as the numbers the bytes spell, also when a
zero stands for any number. -/
theorem load_compares {α : Type} [OfNat α 0] {n : ℕ} (load : Bytes → α)
    (hinj : ∀ {bs bs' : Bytes}, bs.length = n → bs'.length = n → load bs = load bs' → bs = bs')
    (hzero : load (List.replicate n 0) = 0) {bs bs' : Bytes} (hn : bs.length = n)
    (hn' : bs'.length = n) :
    (load bs ≠ 0 → load bs = load bs') ↔ (natOfBe bs ≠ 0 → natOfBe bs = natOfBe bs') := by
  have heq : ∀ {cs : Bytes}, cs.length = n → (load bs = load cs ↔ natOfBe bs = natOfBe cs) :=
    fun hc => ⟨fun h => congrArg natOfBe (hinj hn hc h),
      fun h => congrArg load (natOfBe_inj (hn.trans hc.symm) h)⟩
  rw [heq hn', ← hzero, ne_eq, heq List.length_replicate, natOfBe_replicate_zero]

theorem length_store16 (e : Endian) (x : UInt16) : (e.store16 x).length = 2 := by
  cases e with
  | little => exact List.length_reverse
  | big => rfl

theorem length_store32 (e : Endian) (x : UInt32) : (e.store32 x).length = 4 := by
  cases e with
  | little => exact List.length_reverse
  | big => rfl

/-- A value converted to network order is stored as its big-endian bytes. -/
theorem store16_toBe16 (e : Endian) (x : UInt16) : e.store16 (e.toBe16 x) = u16ToBe x := by
  cases e with
  | little =>
    have hload : Endian.little.toBe16 x = u16OfBe (u16ToBe x).reverse := rfl
    rw [hload, Endian.store16, u16ToBe_u16OfBe (by rw [List.length_reverse]; rfl),
      List.reverse_reverse]
  | big =>
    have hload : Endian.big.toBe16 x = u16OfBe (u16ToBe x) := rfl
    rw [hload, u16OfBe_u16ToBe]
    rfl

/-- A little-endian store swaps the bytes of a word. -/
theorem natOfBe_store16_little (x : UInt16) :
    natOfBe (Endian.little.store16 x) = x.toNat % 256 * 256 + x.toNat / 256 := by
  have hlt : x.toNat / 256 < 256 := by
    have : x.toNat < 65536 := x.toNat_lt
    omega
  have hhigh : (UInt8.ofNat (x.toNat / 256)).toNat = x.toNat / 256 :=
    (UInt8.toNat_ofNat' ..).trans (Nat.mod_eq_of_lt hlt)
  simp [Endian.store16, u16ToBe, bytesBe, natOfBe, hhigh]

/-- A word stored is loaded back. -/
theorem load16_store16 (e : Endian) (x : UInt16) : e.load16 (e.store16 x) = x := by
  have hload : e.loadNat (e.store16 x) = x.toNat := by
    cases e with
    | little =>
      rw [Endian.loadNat, Endian.store16, natOfLe, List.reverse_reverse, natOfBe_u16ToBe]
    | big => exact natOfBe_u16ToBe x
  rw [Endian.load16, hload, UInt16.ofNat_toNat]

theorem load32_store32 (e : Endian) (x : UInt32) : e.load32 (e.store32 x) = x := by
  have hload : e.loadNat (e.store32 x) = x.toNat := by
    cases e with
    | little =>
      rw [Endian.loadNat, Endian.store32, natOfLe, List.reverse_reverse, natOfBe_u32ToBe]
    | big => exact natOfBe_u32ToBe x
  rw [Endian.load32, hload, UInt32.ofNat_toNat]

/-- Bytes loaded are stored back. -/
theorem store32_load32 (e : Endian) {bs : Bytes} (h : bs.length = 4) :
    e.store32 (e.load32 bs) = bs :=
  load32_inj e (length_store32 ..) h (load32_store32 ..)

theorem store32_inj (e : Endian) {x y : UInt32} (h : e.store32 x = e.store32 y) : x = y := by
  rw [← load32_store32 e x, h, load32_store32]

end Lib
