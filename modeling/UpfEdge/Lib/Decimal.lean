import Mathlib.Data.List.TakeWhile

/-!
# Decimal text

`parseUnsigned bound` reads a number below `bound` the way Rust's `str::parse` reads an unsigned
integer: an optional plus sign, then at least one digit and nothing else, and no overflow.
`readDigits` reads the digits at the start of a text and leaves the rest.  Both give back a number
from its own decimal text (`parseUnsigned_toDigits`, `readDigits_toDigits`).

`trimStartMatches` drops every copy of a pattern from the start of a text.
-/

namespace Lib

/-- The digits without the optional sign. -/
def dropSign : List Char → List Char
  | '+' :: cs => cs
  | cs => cs

/-- `str::parse` for an unsigned type with `bound` values. -/
def parseUnsigned (bound : ℕ) (text : List Char) : Option ℕ :=
  let cs := dropSign text
  if cs ≠ [] ∧ cs.all Char.isDigit ∧ Nat.ofDigitChars 10 cs 0 < bound then
    some (Nat.ofDigitChars 10 cs 0)
  else none

theorem all_isDigit_toDigits (n : ℕ) : (Nat.toDigits 10 n).all Char.isDigit :=
  List.all_eq_true.mpr fun _ hc => Nat.isDigit_of_mem_toDigits (by decide) (by decide) hc

theorem dropSign_of_isDigit {cs : List Char} (h : cs.all Char.isDigit) : dropSign cs = cs := by
  unfold dropSign
  split
  · simp at h
  · rfl

/-- A number is read back from its decimal text. -/
theorem parseUnsigned_toDigits {bound n : ℕ} (h : n < bound) :
    parseUnsigned bound (Nat.toDigits 10 n) = some n := by
  have hdigits := all_isDigit_toDigits n
  unfold parseUnsigned
  simp only [dropSign_of_isDigit hdigits, Nat.ofDigitChars_ten_toDigits]
  exact if_pos ⟨Nat.toDigits_ne_nil, hdigits, h⟩

/-- The digits at the start of a text, and the rest. -/
def readDigits (cs : List Char) : List Char × List Char :=
  (cs.takeWhile Char.isDigit, cs.dropWhile Char.isDigit)

theorem readDigits_toDigits (n : ℕ) {rest : List Char}
    (h : ∀ c ∈ rest.head?, c.isDigit = false) :
    readDigits (Nat.toDigits 10 n ++ rest) = (Nat.toDigits 10 n, rest) := by
  have hdigits : ∀ c ∈ Nat.toDigits 10 n, c.isDigit := List.all_eq_true.mp (all_isDigit_toDigits n)
  unfold readDigits
  rw [List.takeWhile_append_of_pos hdigits, List.dropWhile_append_of_pos hdigits]
  cases rest with
  | nil => simp
  | cons c cs =>
    have hc : c.isDigit = false := h c rfl
    simp [hc]

/-- `str::trim_start_matches`, for at most `fuel` copies of a pattern. -/
def trimStartMatches (pattern : List Char) : ℕ → List Char → List Char
  | 0, cs => cs
  | fuel + 1, cs =>
    if pattern.isPrefixOf cs then trimStartMatches pattern fuel (cs.drop pattern.length) else cs

theorem trimStartMatches_append {pattern cs : List Char} {fuel : ℕ} (hfuel : 1 ≤ fuel)
    (h : pattern.isPrefixOf cs = false) :
    trimStartMatches pattern fuel (pattern ++ cs) = cs := by
  obtain ⟨fuel, rfl⟩ : ∃ n, fuel = n + 1 := ⟨fuel - 1, by omega⟩
  have happend : pattern.isPrefixOf (pattern ++ cs) := by simp
  rw [trimStartMatches, if_pos happend, List.drop_left]
  cases fuel with
  | zero => rfl
  | succ fuel => rw [trimStartMatches, h]; rfl

end Lib
