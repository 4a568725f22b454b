import Mathlib.Tactic.Ring

/-!
# One's complement sums

Addition of words in one's complement, as the Internet checksum uses it.  `M` is the greatest word,
`2 ^ w - 1` on `w` bits; a carry out of a word is worth `M + 1` and comes back in as `1`.

Such a sum is a number modulo `M` (`onesSum_eq`), with `M` itself for the multiples of `M` but zero.
An accumulator wide enough to hold all carries can bring them back in at the end: for a sum of up to
`M + 1` words two folds are enough (`carryFold_carryFold`).
-/

namespace Lib

/-- Two words added, the carry added to the result. -/
def onesAdd (M a b : ℕ) : ℕ := if a + b ≤ M then a + b else a + b - M

/-- The one's complement sum of a list of words. -/
def onesSum (M : ℕ) (ws : List ℕ) : ℕ := ws.foldl (onesAdd M) 0

/-- The word that a sum comes to. -/
def onesRep (M n : ℕ) : ℕ := if n = 0 then 0 else (n - 1) % M + 1

/-- The carries above a word, added to the word. -/
def carryFold (M s : ℕ) : ℕ := s % (M + 1) + s / (M + 1)

variable {M : ℕ}

theorem onesRep_zero : onesRep M 0 = 0 := rfl

theorem onesRep_succ (n : ℕ) : onesRep M (n + 1) = n % M + 1 := rfl

theorem onesRep_of_le {n : ℕ} (h : n ≤ M) : onesRep M n = n := by
  cases n with
  | zero => rfl
  | succ n => rw [onesRep_succ, Nat.mod_eq_of_lt h]

theorem onesRep_le (hM : 0 < M) (n : ℕ) : onesRep M n ≤ M := by
  cases n with
  | zero => exact Nat.zero_le _
  | succ n =>
    rw [onesRep_succ]
    exact Nat.mod_lt n hM

/-- Multiples of the greatest word make no difference to a sum that is not zero. -/
theorem onesRep_add_mul (n k : ℕ) : onesRep M (n + 1 + M * k) = onesRep M (n + 1) := by
  rw [Nat.add_right_comm, onesRep_succ, onesRep_succ, Nat.add_mul_mod_self_left]

theorem onesAdd_onesRep (hM : 0 < M) (n : ℕ) {b : ℕ} (hb : b ≤ M) :
    onesAdd M (onesRep M n) b = onesRep M (n + b) := by
  cases n with
  | zero =>
    have hle : 0 + b ≤ M := by omega
    rw [onesRep_zero, onesAdd, if_pos hle, onesRep_of_le hle]
  | succ n =>
    have hr : n % M < M := Nat.mod_lt n hM
    have hsum : (n + b) % M = (n % M + b) % M := by rw [Nat.mod_add_mod]
    rw [Nat.add_right_comm, onesRep_succ, onesRep_succ, hsum, onesAdd]
    generalize n % M = r at hr
    by_cases hcarry : r + 1 + b ≤ M
    · rw [if_pos hcarry, Nat.mod_eq_of_lt (by omega)]
      omega
    · rw [if_neg hcarry, Nat.mod_eq_sub_mod (by omega), Nat.mod_eq_of_lt (by omega)]
      omega

/-- A sum and its complement have all bits set. -/
theorem onesRep_add_complement (hM : 0 < M) (n : ℕ) :
    onesRep M (n + (M - onesRep M n)) = M := by
  have hle := onesRep_le hM n
  rw [← onesAdd_onesRep hM n (Nat.sub_le ..), onesAdd, if_pos (by omega)]
  omega

/-- **A one's complement sum is the sum of the words modulo the greatest one.** -/
theorem onesSum_eq (hM : 0 < M) {ws : List ℕ} (h : ∀ x ∈ ws, x ≤ M) :
    onesSum M ws = onesRep M ws.sum := by
  have hfold : ∀ (ws : List ℕ) (n : ℕ), (∀ x ∈ ws, x ≤ M) →
      ws.foldl (onesAdd M) (onesRep M n) = onesRep M (n + ws.sum) := by
    intro ws
    induction ws with
    | nil => simp
    | cons x ws ih =>
      intro n h
      rw [List.foldl_cons, onesAdd_onesRep hM n (h x (List.mem_cons_self ..)),
        ih (n + x) fun y hy => h y (List.mem_cons_of_mem _ hy), List.sum_cons, Nat.add_assoc]
  rw [onesSum, ← onesRep_zero (M := M), hfold ws 0 h, Nat.zero_add]

/-- All bits are set in the sums that are multiples of the greatest word, except zero. -/
theorem onesRep_eq_max_iff (hM : 0 < M) {n : ℕ} (hn : n ≠ 0) : onesRep M n = M ↔ n % M = 0 := by
  obtain ⟨n, rfl⟩ := Nat.exists_eq_succ_of_ne_zero hn
  have hr : n % M < M := Nat.mod_lt n hM
  have hsum : (n + 1) % M = (n % M + 1) % M := by rw [Nat.mod_add_mod]
  rw [Nat.succ_eq_add_one, onesRep_succ, hsum]
  generalize n % M = r at hr
  constructor
  · intro h
    rw [h, Nat.mod_self]
  · intro h
    by_contra hne
    rw [Nat.mod_eq_of_lt (by omega)] at h
    omega

/-! ### Carries at the end -/

theorem carryFold_add (s : ℕ) : s = carryFold M s + M * (s / (M + 1)) := by
  have h := Nat.mod_add_div s (M + 1)
  rw [Nat.add_mul, Nat.one_mul] at h
  rw [carryFold]
  omega

/-- A fold does not change what the sum comes to. -/
theorem onesRep_carryFold (s : ℕ) : onesRep M (carryFold M s) = onesRep M s := by
  have h := carryFold_add (M := M) s
  cases hfold : carryFold M s with
  | zero =>
    have hdiv : s / (M + 1) = 0 := (Nat.add_eq_zero_iff.mp hfold).2
    rw [hfold, hdiv] at h
    rw [h]
    rfl
  | succ n =>
    rw [hfold] at h
    rw [h, onesRep_add_mul]

/-- **Two folds are enough** for a sum that fits into two words. -/
theorem carryFold_carryFold {s : ℕ} (hs : s < (M + 1) * (M + 1)) :
    carryFold M (carryFold M s) = onesRep M s := by
  have hq : s / (M + 1) ≤ M := Nat.le_of_lt_succ (Nat.div_lt_of_lt_mul hs)
  have hr : s % (M + 1) ≤ M := Nat.le_of_lt_succ (Nat.mod_lt s (Nat.succ_pos M))
  have hfold : carryFold M s ≤ 2 * M := by
    rw [carryFold]
    omega
  have hle : carryFold M (carryFold M s) ≤ M := by
    generalize carryFold M s = t at hfold
    rw [carryFold]
    by_cases ht : t < M + 1
    · rw [Nat.mod_eq_of_lt ht, Nat.div_eq_of_lt ht]
      omega
    · have hdiv : t / (M + 1) = 1 := Nat.div_eq_of_lt_le (by omega) (by omega)
      rw [hdiv, Nat.mod_eq_sub_mod (by omega), Nat.mod_eq_of_lt (by omega)]
      omega
  rw [← onesRep_of_le hle, onesRep_carryFold, onesRep_carryFold]

end Lib
