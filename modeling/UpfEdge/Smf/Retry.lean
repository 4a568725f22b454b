import UpfEdge.Smf.Link

/-!
# The association loop of the basic lifecycle

The first step of `smf-sim/src/scenario/basic_lifecycle.rs`: an Association Setup Request is sent
again and again until one is answered and the answer validates.  After a failed attempt the loop
sleeps for `wait_secs`, which doubles from three seconds on and is cut at thirty.

The arithmetic is that of Rust: in a build with overflow checks an overflow is a panic, in any other
the result wraps.  The cut comes after the power and the product, so it does not keep them from
overflowing: the waits are what they are meant to be for 63 failed attempts
(`backoffBounded_iff`).
-/

namespace UpfEdge.SmfSim

open Lib Pfcp

inductive LoopStatus where
  | trying
  | accepted (rsp : Bytes)
  | panicked
  deriving DecidableEq, Repr

/-- The variables of the loop, and ledgers of the requests it has sent and of the waits it has
computed, each with whether the computation overflowed. -/
structure Retry where
  status : LoopStatus
  cntTries : UInt32
  sim : SimState
  sent : List Bytes
  waits : List (UInt64 × Bool)

/-- `std::cmp::min(3u64 * 2u64.pow(cnt_tries - 1), 30)`. -/
def waitSecs (cntTries : UInt32) : UInt64 × Bool :=
  let exp := overflowingSub cntTries 1
  let power := overflowingPow 2 exp.1
  let product := overflowingMul 3 power.1
  (min product.1 30, exp.2 || power.2 || product.2)

namespace Retry

def start (cfg : Config) : Retry where
  status := .trying
  cntTries := 0
  sim := .new cfg
  sent := []
  waits := []

/-- The attempt has failed: the loop sleeps and goes round. -/
def fail (checks : Bool) (l : Retry) : Option Retry := do
  let wait := waitSecs l.cntTries
  let _ ← settle checks wait
  return { l with waits := l.waits ++ [wait] }

/-- One round of the loop, with `result` what `send_and_recv` comes to; none is a panic. -/
def round (checks : Bool) (cfg : Config) (ts : UInt32) (l : Retry)
    (result : Except CallError Bytes) : Option Retry := do
  let _ ← settle checks (overflowingAdd l.sim.nextSeq 1)
  let (seq, sim) := l.sim.nextSeqNum
  let req := associationRequest seq cfg.smfN4Addr ts
  let cntTries ← settle checks (overflowingAdd l.cntTries 1)
  let l := { l with cntTries, sim, sent := l.sent ++ [req] }
  match result with
  | .ok rsp =>
    match validateResponse pfcpAssociationSetupReq seq rsp with
    | .ok () => return { l with status := .accepted rsp }
    | .error _ => l.fail checks
  | .error _ => l.fail checks

def step (checks : Bool) (cfg : Config) (ts : UInt32) (l : Retry)
    (result : Except CallError Bytes) : Retry :=
  if l.status = .trying then (l.round checks cfg ts result).getD { l with status := .panicked }
  else l

/-- The attempt made in this state fails: there is no answer, or it does not validate. -/
def Failed (l : Retry) (result : Except CallError Bytes) : Prop :=
  ∀ rsp, result = .ok rsp →
    ∃ e, validateResponse pfcpAssociationSetupReq l.sim.nextSeq rsp = .error e

end Retry

/-! ### The wait -/

/-- The wait that is meant after `n` more failed attempts than the first. -/
def backoff (n : ℕ) : UInt64 × Bool := (UInt64.ofNat (min (3 * 2 ^ n) 30), false)

theorem toNat_backoff (n : ℕ) : (backoff n).1.toNat = min (3 * 2 ^ n) 30 :=
  UInt64.toNat_ofNat_of_lt' (by
    have h30 : min (3 * 2 ^ n) 30 ≤ 30 := Nat.min_le_right ..
    exact h30.trans_lt (by decide))

section

variable {c : UInt32} (hc : 1 ≤ c.toNat)
include hc

theorem waitSecs_eq : waitSecs c =
    (min (3 * UInt64.ofNat (2 ^ (c.toNat - 1))) 30,
      decide (2 ^ 64 ≤ 2 ^ (c.toNat - 1)) ||
        decide (2 ^ 64 ≤ 3 * (2 ^ (c.toNat - 1) % 2 ^ 64))) := by
  have hsub : (c - 1).toNat = c.toNat - 1 := UInt32.toNat_sub_of_le _ _ hc
  have hno : ¬ c.toNat < 1 := by omega
  simp [waitSecs, overflowingSub, overflowingPow, overflowingMul, hsub, hno]

/-- Some operation overflows from the 64th attempt on. -/
theorem waitSecs_overflows_iff : (waitSecs c).2 = true ↔ 63 < c.toNat := by
  rw [waitSecs_eq hc, Bool.or_eq_true, decide_eq_true_eq, decide_eq_true_eq]
  rcases Nat.lt_or_ge 64 c.toNat with h | h
  · have hpow : 2 ^ 64 ≤ 2 ^ (c.toNat - 1) := Nat.pow_le_pow_right (by decide) (by omega)
    exact ⟨fun _ => by omega, fun _ => .inl hpow⟩
  · rcases Nat.lt_or_ge 63 c.toNat with h' | h'
    · obtain rfl' : c.toNat = 64 := by omega
      simp [rfl']
    · have hpow : 2 ^ (c.toNat - 1) ≤ 2 ^ 62 := Nat.pow_le_pow_right (by decide) (by omega)
      rw [Nat.mod_eq_of_lt (by omega)]
      omega

theorem toNat_waitSecs (h : c.toNat ≤ 63) :
    (waitSecs c).1.toNat = min (3 * 2 ^ (c.toNat - 1)) 30 := by
  have hpow : 2 ^ (c.toNat - 1) ≤ 2 ^ 62 := Nat.pow_le_pow_right (by decide) (by omega)
  have hproduct : (3 * UInt64.ofNat (2 ^ (c.toNat - 1))).toNat = 3 * 2 ^ (c.toNat - 1) := by
    have hthree : (3 : UInt64).toNat = 3 := rfl
    rw [UInt64.toNat_mul, UInt64.toNat_ofNat_of_lt' (hpow.trans_lt (by decide)), hthree]
    exact Nat.mod_eq_of_lt (by omega)
  have hthirty : (30 : UInt64).toNat = 30 := rfl
  rw [waitSecs_eq hc, ← hproduct]
  generalize 3 * UInt64.ofNat (2 ^ (c.toNat - 1)) = p
  change (if p ≤ 30 then p else 30).toNat = _
  split_ifs with hle
  · rw [UInt64.le_iff_toNat_le] at hle
    omega
  · rw [UInt64.le_iff_toNat_le] at hle
    omega

/-- Up to there the wait is the product, cut at thirty. -/
theorem waitSecs_eq_backoff (h : c.toNat ≤ 63) : waitSecs c = backoff (c.toNat - 1) := by
  apply Prod.ext
  · apply UInt64.toNat_inj.mp
    rw [toNat_waitSecs hc h, toNat_backoff]
  · have hno : ¬ (waitSecs c).2 = true := by
      rw [waitSecs_overflows_iff hc]
      omega
    exact Bool.not_eq_true _ |>.mp hno

end

/-! ### Rounds of failed attempts -/

namespace Retry

variable {checks : Bool} {cfg : Config} {ts : UInt32}

/-- The loop after `n` failed attempts, none of which has overflowed. -/
structure After (n : ℕ) (l : Retry) : Prop where
  status : l.status = .trying
  cntTries : l.cntTries.toNat = n
  nextSeq : l.sim.nextSeq.toNat = n + 1
  waits : l.waits = (List.range n).map backoff

theorem After.length_waits {n : ℕ} {l : Retry} (h : After n l) : l.waits.length = n := by
  rw [h.waits, List.length_map, List.length_range]

theorem after_start (cfg : Config) : After 0 (start cfg) := ⟨rfl, rfl, rfl, rfl⟩

theorem settle_of_false {α : Type} {r : α × Bool} (h : r.2 = false) :
    settle checks r = some r.1 := by
  rw [settle, h, Bool.and_false]
  rfl

/-- A round whose attempt fails comes down to the computation of the wait. -/
theorem round_of_failed {n : ℕ} {l : Retry} {result : Except CallError Bytes} (h : After n l)
    (hn : n < 2 ^ 31) (hf : l.Failed result) :
    l.round checks cfg ts result =
      fail checks { l with
        cntTries := l.cntTries + 1, sim := l.sim.nextSeqNum.2
        sent := l.sent ++ [associationRequest l.sim.nextSeq cfg.smfN4Addr ts] } := by
  have hone : (1 : UInt32).toNat = 1 := rfl
  have hseq : (overflowingAdd l.sim.nextSeq 1).2 = false := by
    have := h.nextSeq
    simp only [overflowingAdd, decide_eq_false_iff_not]
    omega
  have hcnt : (overflowingAdd l.cntTries 1).2 = false := by
    have := h.cntTries
    simp only [overflowingAdd, decide_eq_false_iff_not]
    omega
  have hround : l.round checks cfg ts result = (settle checks (overflowingAdd l.sim.nextSeq 1)).bind
      fun _ => (settle checks (overflowingAdd l.cntTries 1)).bind fun c => _ := rfl
  rw [hround, settle_of_false hseq, Option.bind_some, settle_of_false hcnt, Option.bind_some]
  cases result with
  | error e => rfl
  | ok rsp =>
    obtain ⟨e, he⟩ := hf rsp rfl
    simp only [SimState.nextSeqNum, he]
    rfl

/-- One failed attempt among the first 63. -/
theorem after_step {n : ℕ} {l : Retry} {result : Except CallError Bytes} (h : After n l)
    (hn : n < 63) (hf : l.Failed result) : After (n + 1) (l.step checks cfg ts result) := by
  have hone : (1 : UInt32).toNat = 1 := rfl
  have hcnt : (l.cntTries + 1).toNat = n + 1 := by
    rw [UInt32.toNat_add, h.cntTries, hone, Nat.mod_eq_of_lt (by omega)]
  have hseq : (l.sim.nextSeq + 1).toNat = n + 1 + 1 := by
    rw [UInt32.toNat_add, h.nextSeq, hone, Nat.mod_eq_of_lt (by omega)]
  have hwait : waitSecs (l.cntTries + 1) = backoff n := by
    rw [waitSecs_eq_backoff (by omega) (by omega), hcnt, Nat.add_sub_cancel]
  have hstep : l.step checks cfg ts result = { l with
      cntTries := l.cntTries + 1, sim := l.sim.nextSeqNum.2
      sent := l.sent ++ [associationRequest l.sim.nextSeq cfg.smfN4Addr ts]
      waits := l.waits ++ [backoff n] } := by
    rw [step, if_pos h.status, round_of_failed h (by omega) hf, fail, hwait,
      settle_of_false rfl]
    rfl
  rw [hstep]
  refine ⟨h.status, hcnt, hseq, ?_⟩
  rw [List.range_succ, List.map_append, ← h.waits]
  rfl

theorem after_run {results : List (Except CallError Bytes)} {n : ℕ} {l : Retry} (h : After n l)
    (hn : n + results.length ≤ 63) (hf : Meets (step checks cfg ts) Failed l results) :
    After (n + results.length) (run (step checks cfg ts) l results) := by
  induction results generalizing n l with
  | nil => exact h
  | cons result results ih =>
    rw [List.length_cons] at hn ⊢
    have hstep : After (n + 1) (l.step checks cfg ts result) := after_step h (by omega) hf.1
    have hrun := ih hstep (by omega) hf.2
    rwa [Nat.add_assoc, Nat.add_comm 1] at hrun

/-- The 64th wait has overflowed: the loop has panicked over it, or has waited for something
else. -/
def Overflowed (l : Retry) : Prop :=
  (l.status = .panicked ∧ l.waits.length = 63) ∨ ∃ w, l.waits[63]? = some (w, true)

/-- The attempt after the first 63. -/
theorem overflowed_step {l : Retry} {result : Except CallError Bytes} (h : After 63 l)
    (hf : l.Failed result) : Overflowed (l.step checks cfg ts result) := by
  have hone : (1 : UInt32).toNat = 1 := rfl
  have hcnt : (l.cntTries + 1).toNat = 64 := by
    rw [UInt32.toNat_add, h.cntTries, hone]
  have hover : (waitSecs (l.cntTries + 1)).2 = true := by
    rw [waitSecs_overflows_iff (by omega)]
    omega
  rw [step, if_pos h.status, round_of_failed h (by omega) hf, fail, settle, hover, Bool.and_true]
  cases checks with
  | true => exact .inl ⟨rfl, h.length_waits⟩
  | false =>
    refine .inr ⟨(waitSecs (l.cntTries + 1)).1, ?_⟩
    change (l.waits ++ [waitSecs (l.cntTries + 1)])[63]? = _
    rw [List.getElem?_append_right (by rw [h.length_waits]), h.length_waits]
    simp [← hover]

theorem fail_waits {l l' : Retry} (h : l.fail checks = some l') :
    l'.waits = l.waits ++ [waitSecs l.cntTries] := by
  obtain ⟨-, -, h⟩ := Option.bind_eq_some_iff.mp h
  obtain rfl := Option.some.inj h
  rfl

/-- The ledger of waits only grows. -/
theorem waits_prefix_step (l : Retry) (result : Except CallError Bytes) :
    l.waits <+: (l.step checks cfg ts result).waits := by
  rw [step]
  split_ifs
  · cases hr : l.round checks cfg ts result with
    | none => exact List.prefix_refl _
    | some l' =>
      obtain ⟨-, -, hr⟩ := Option.bind_eq_some_iff.mp hr
      obtain ⟨c, -, hr⟩ := Option.bind_eq_some_iff.mp hr
      split at hr
      · split at hr
        · obtain rfl := Option.some.inj hr
          exact List.prefix_refl _
        · exact ⟨_, (fail_waits hr).symm⟩
      · exact ⟨_, (fail_waits hr).symm⟩
  · exact List.prefix_refl _

theorem Overflowed.step {l : Retry} (h : Overflowed l) (result : Except CallError Bytes) :
    Overflowed (l.step checks cfg ts result) := by
  rcases h with ⟨hs, hlen⟩ | ⟨w, hw⟩
  · have hid : l.step checks cfg ts result = l := by
      rw [Retry.step, if_neg (by rw [hs]; decide)]
    rw [hid]
    exact .inl ⟨hs, hlen⟩
  · have hprefix : l.waits <+: (l.step checks cfg ts result).waits := waits_prefix_step l result
    obtain ⟨more, hmore⟩ := hprefix
    refine .inr ⟨w, ?_⟩
    rw [← hmore]
    exact (List.getElem?_append_left (List.getElem?_eq_some_iff.mp hw).1).trans hw

/-- The waits of a run of failed attempts are as they are meant to be: the `n`-th is computed
without an overflow or a panic, doubles from three seconds on and is cut at thirty. -/
def BackoffBounded (checks : Bool) (cfg : Config) (ts : UInt32)
    (results : List (Except CallError Bytes)) : Prop :=
  ∀ n, 1 ≤ n → n ≤ results.length →
    ∃ w, (run (Retry.step checks cfg ts) (start cfg) results).waits[n - 1]? = some (w, false) ∧
      w.toNat = min (3 * 2 ^ (n - 1)) 30 ∧ 3 ≤ w.toNat ∧ w.toNat ≤ 30

/-- **The back-off is bounded for 63 failed attempts**, with and without overflow checks, and for
no more. -/
theorem backoffBounded_iff (checks : Bool) (cfg : Config) (ts : UInt32)
    (results : List (Except CallError Bytes))
    (hf : Meets (Retry.step checks cfg ts) Failed (start cfg) results) :
    BackoffBounded checks cfg ts results ↔ results.length ≤ 63 := by
  constructor
  · intro h
    by_contra hlt
    -- the 64th attempt, which is made after 63 that went well
    obtain ⟨pre, result, post, rfl, hpre⟩ : ∃ pre result post,
        results = pre ++ result :: post ∧ pre.length = 63 := by
      refine ⟨results.take 63, results[63], results.drop 64, ?_, ?_⟩
      · rw [← List.drop_eq_getElem_cons, List.take_append_drop]
      · rw [List.length_take]
        omega
    obtain ⟨hmpre, hfailed, -⟩ := meets_append.mp hf
    have hafter := after_run (after_start cfg) (by omega) hmpre
    rw [Nat.zero_add, hpre] at hafter
    have hover : Overflowed
        (run (Retry.step checks cfg ts) (start cfg) (pre ++ result :: post)) := by
      rw [run_append, run_cons]
      exact run_inv_of_step (fun _ result h => h.step result) (overflowed_step hafter hfailed)
    obtain ⟨w, hw, -⟩ := h 64 (by decide) (by omega)
    rcases hover with ⟨-, hlen⟩ | ⟨w', hw'⟩
    · rw [List.getElem?_eq_none hlen.le] at hw
      cases hw
    · rw [hw'] at hw
      cases hw
  · intro h n hn hle
    have hafter := after_run (after_start cfg) (by omega) hf
    have hpow : 1 ≤ 2 ^ (n - 1) := Nat.one_le_two_pow
    have hwait := toNat_backoff (n - 1)
    refine ⟨(backoff (n - 1)).1, ?_, hwait, by omega, by omega⟩
    rw [hafter.waits, List.getElem?_map, List.getElem?_range (by omega)]
    rfl

/-- A UPF that does not answer at all. -/
def timeouts (n : ℕ) : List (Except CallError Bytes) := List.replicate n (.error (.timeout 3000))

theorem meets_timeouts (checks : Bool) (cfg : Config) (ts : UInt32) (n : ℕ) (l : Retry) :
    Meets (Retry.step checks cfg ts) Failed l (timeouts n) := by
  induction n generalizing l with
  | zero => trivial
  | succ n ih =>
    refine ⟨?_, ih _⟩
    intro rsp h
    cases h

/-- Sixty-three timeouts. -/
theorem backoffBounded_iff_timeouts :
    BackoffBounded true simConfig 0 (timeouts 63) :=
  (backoffBounded_iff true simConfig 0 (timeouts 63) (meets_timeouts ..)).mpr (by decide)

/-- The simulator has waited for nothing after the 65th timeout; with overflow checks it is no more
after the 64th. -/
theorem not_backoffBounded_timeouts :
    (run (Retry.step true simConfig 0) (start simConfig) (timeouts 64)).status = .panicked ∧
      (run (Retry.step false simConfig 0) (start simConfig) (timeouts 65)).waits[64]? =
        some (0, true) ∧
      ¬ BackoffBounded true simConfig 0 (timeouts 64) ∧
      ¬ BackoffBounded false simConfig 0 (timeouts 65) := by
  have hpanic : (run (Retry.step true simConfig 0) (start simConfig) (timeouts 64)).waits[63]? =
      none := by decide +kernel
  have hzero : (run (Retry.step false simConfig 0) (start simConfig) (timeouts 65)).waits[64]? =
      some (0, true) := by decide +kernel
  refine ⟨by decide +kernel, hzero, ?_, ?_⟩
  · intro h
    obtain ⟨w, hw, -⟩ := h 64 (by decide) (by decide)
    rw [hpanic] at hw
    cases hw
  · intro h
    obtain ⟨w, hw, -⟩ := h 65 (by decide) (by decide)
    rw [hzero] at hw
    cases hw

end Retry

end UpfEdge.SmfSim
