import Mathlib.Data.List.Basic

/-!
# Runs of a deterministic machine

A machine is a step function `step : σ → ε → σ`; what the environment chooses is part of the event.
`run step s es` is the state after the events `es`, and `Meets step guard s es` says that every
step of that run satisfies `guard`, a condition on the state before the step and on the event.

Three rules cover the proofs about runs: an invariant that every guarded step keeps holds after
every guarded run (`run_inv`); what it gives for one step holds at every step (`Meets.of_inv`); and
a property whose failure is visible right after the first unguarded step holds on the way *exactly*
when the run is guarded (`always_iff_meets`, and within a premise `always_iff_meets_of`).

A machine that waits for certain events in turn follows a script; it gets to the end of it exactly
in the runs whose events contain the script (`run_follow_eq_length_iff`).
-/

namespace Lib

variable {σ ε : Type}

section

variable (step : σ → ε → σ)

/-- The state after a list of events. -/
def run (s : σ) (es : List ε) : σ := es.foldl step s

/-- Every step of the run from `s` along `es` satisfies `guard`. -/
def Meets (guard : σ → ε → Prop) : σ → List ε → Prop
  | _, [] => True
  | s, e :: es => guard s e ∧ Meets guard (step s e) es

instance Meets.decidable (guard : σ → ε → Prop) [∀ s e, Decidable (guard s e)] :
    ∀ s es, Decidable (Meets step guard s es)
  | _, [] => isTrue trivial
  | s, e :: es =>
    have := Meets.decidable guard (step s e) es
    inferInstanceAs (Decidable (guard s e ∧ Meets step guard (step s e) es))

/-- `P` holds in every state of the run from `s` along `es`, the first and the last included. -/
def Always (P : σ → Prop) (s : σ) (es : List ε) : Prop :=
  ∀ pre post, es = pre ++ post → P (run step s pre)

end

variable {step : σ → ε → σ}

theorem run_nil (s : σ) : run step s [] = s := rfl

theorem run_cons (s : σ) (e : ε) (es : List ε) : run step s (e :: es) = run step (step s e) es :=
  rfl

theorem run_append (s : σ) (es es' : List ε) :
    run step s (es ++ es') = run step (run step s es) es' :=
  List.foldl_append ..

theorem run_concat (s : σ) (es : List ε) (e : ε) :
    run step s (es ++ [e]) = step (run step s es) e :=
  run_append s es [e]

theorem meets_append {guard : σ → ε → Prop} {es es' : List ε} {s : σ} :
    Meets step guard s (es ++ es') ↔
      Meets step guard s es ∧ Meets step guard (run step s es) es' := by
  induction es generalizing s with
  | nil => simp [Meets, run_nil]
  | cons e es ih => simp only [List.cons_append, Meets, run_cons, ih, and_assoc]

theorem Meets.mono {guard guard' : σ → ε → Prop} (h : ∀ s e, guard s e → guard' s e) :
    ∀ {es : List ε} {s : σ}, Meets step guard s es → Meets step guard' s es
  | [], _, _ => trivial
  | _ :: _, _, hm => ⟨h _ _ hm.1, hm.2.mono h⟩

/-- **The invariant rule.**  What every guarded step keeps holds after every guarded run. -/
theorem run_inv {P : σ → Prop} {guard : σ → ε → Prop}
    (hstep : ∀ s e, P s → guard s e → P (step s e)) {es : List ε} {s : σ} (h : P s)
    (hm : Meets step guard s es) : P (run step s es) := by
  induction es generalizing s with
  | nil => exact h
  | cons e es ih => exact ih (hstep s e h hm.1) hm.2

/-- The invariant rule for a step that keeps the invariant whatever the event. -/
theorem run_inv_of_step {P : σ → Prop} (hstep : ∀ s e, P s → P (step s e)) {es : List ε}
    {s : σ} (h : P s) : P (run step s es) := by
  induction es generalizing s with
  | nil => exact h
  | cons e es ih => exact ih (hstep s e h)

/-- What an invariant and the guard give for one step holds for every step of a guarded run. -/
theorem Meets.of_inv {I : σ → Prop} {guard guard' : σ → ε → Prop}
    (hinv : ∀ s e, I s → guard s e → I (step s e)) (h : ∀ s e, I s → guard s e → guard' s e) :
    ∀ {es : List ε} {s : σ}, I s → Meets step guard s es → Meets step guard' s es
  | [], _, _, _ => trivial
  | e :: _, s, hI, hm => ⟨h s e hI hm.1, hm.2.of_inv hinv h (hinv s e hI hm.1)⟩

theorem always_cons {P : σ → Prop} {s : σ} {e : ε} {es : List ε} :
    Always step P s (e :: es) ↔ P s ∧ Always step P (step s e) es := by
  constructor
  · intro h
    exact ⟨h [] (e :: es) rfl, fun pre post he => h (e :: pre) post (by rw [he]; rfl)⟩
  · rintro ⟨h0, h⟩ pre post he
    cases pre with
    | nil => exact h0
    | cons a pre =>
      obtain ⟨rfl, rfl⟩ : e = a ∧ es = pre ++ post := by simpa using he
      exact h pre post rfl

/-- **The exact rule**, within a premise `pre` on the steps and an invariant `I` that the premise
alone keeps: if guarded steps keep `P` and an unguarded step from a state with `P` breaks it, then
`P` holds all along a run exactly when every step of it is guarded. -/
theorem always_iff_meets_of {I P : σ → Prop} {pre guard : σ → ε → Prop}
    (hinv : ∀ s e, I s → pre s e → I (step s e))
    (hkeep : ∀ s e, I s → P s → pre s e → guard s e → P (step s e))
    (hbreak : ∀ s e, I s → P s → pre s e → P (step s e) → guard s e) :
    ∀ {es : List ε} {s : σ}, I s → P s → Meets step pre s es →
      (Always step P s es ↔ Meets step guard s es)
  | [], s, _, h, _ => by
    refine ⟨fun _ => trivial, fun _ pre post he => ?_⟩
    obtain ⟨rfl, -⟩ : pre = [] ∧ post = [] := by simpa using he
    exact h
  | e :: es, s, hI, h, ⟨hpre, hpres⟩ => by
    have hI' := hinv s e hI hpre
    rw [always_cons]
    constructor
    · rintro ⟨-, hes⟩
      have h' : P (step s e) := hes [] es rfl
      exact ⟨hbreak s e hI h hpre h',
        (always_iff_meets_of hinv hkeep hbreak hI' h' hpres).mp hes⟩
    · rintro ⟨hg, hm⟩
      have h' := hkeep s e hI h hpre hg
      exact ⟨h, (always_iff_meets_of hinv hkeep hbreak hI' h' hpres).mpr hm⟩

theorem meets_true : ∀ (es : List ε) (s : σ), Meets step (fun _ _ => True) s es
  | [], _ => trivial
  | e :: es, s => ⟨trivial, meets_true es (step s e)⟩

/-- The exact rule without a premise. -/
theorem always_iff_meets {P : σ → Prop} {guard : σ → ε → Prop}
    (hkeep : ∀ s e, P s → guard s e → P (step s e))
    (hbreak : ∀ s e, P s → P (step s e) → guard s e) {es : List ε} {s : σ} (h : P s) :
    Always step P s es ↔ Meets step guard s es :=
  always_iff_meets_of (I := fun _ => True) (fun _ _ _ _ => trivial)
    (fun s e _ h _ hg => hkeep s e h hg) (fun s e _ h _ h' => hbreak s e h h') trivial h
    (meets_true es s)

/-! ### Schedules -/

/-- The turn with a given number of turns of the same party before it. -/
theorem exists_split_count [DecidableEq ε] {e : ε} : ∀ {es : List ε} {k : ℕ}, k < es.count e →
    ∃ pre post, es = pre ++ e :: post ∧ pre.count e = k
  | [], _, h => by simp at h
  | x :: es, k, h => by
    by_cases hx : x = e
    · subst hx
      cases k with
      | zero => exact ⟨[], es, rfl, rfl⟩
      | succ k =>
        rw [List.count_cons_self] at h
        obtain ⟨pre, post, rfl, hk⟩ := exists_split_count (Nat.lt_of_succ_lt_succ h)
        exact ⟨x :: pre, post, rfl, by rw [List.count_cons_self, hk]⟩
    · rw [List.count_cons_of_ne hx] at h
      obtain ⟨pre, post, rfl, hk⟩ := exists_split_count h
      exact ⟨x :: pre, post, rfl, by rw [List.count_cons_of_ne hx, hk]⟩

/-! ### Scripts -/

section Script

variable [DecidableEq ε] {script : List ε}

/-- How far a script has been followed after one more event: an event that is not the next one of
the script does not count. -/
def follow (script : List ε) (n : ℕ) (e : ε) : ℕ := if script[n]? = some e then n + 1 else n

/-- From any place in the script, the rest of it is followed to its end by the schedules that
contain it. -/
theorem run_follow_eq_iff {n : ℕ} (h : n ≤ script.length) (es : List ε) :
    run (follow script) n es = script.length ↔ (script.drop n).Sublist es := by
  induction es generalizing n with
  | nil =>
    rw [run_nil, List.sublist_nil, List.drop_eq_nil_iff]
    omega
  | cons e es ih =>
    rcases Nat.lt_or_ge n script.length with hlt | hge
    · have hget := List.getElem?_eq_getElem hlt
      by_cases he : script[n] = e
      · have hfollow : follow script n e = n + 1 := if_pos (hget.trans (congrArg some he))
        rw [run_cons, hfollow, ih hlt, List.drop_eq_getElem_cons hlt, he, List.cons_sublist_cons]
      · have hfollow : follow script n e = n :=
          if_neg fun h => he (Option.some.inj (hget.symm.trans h))
        rw [run_cons, hfollow, ih h, List.drop_eq_getElem_cons hlt, List.sublist_cons_iff]
        constructor
        · exact .inl
        · rintro (hsub | ⟨r, hr, -⟩)
          · exact hsub
          · exact absurd (List.cons.inj hr).1 he
    · have hfollow : follow script n e = n :=
        if_neg (by rw [List.getElem?_eq_none hge]; exact Option.some_ne_none e |>.symm)
      have hnil : script.drop n = [] := List.drop_eq_nil_iff.mpr hge
      rw [run_cons, hfollow, ih h, hnil]
      simp

/-- **A script is followed to its end exactly by the schedules that contain it.** -/
theorem run_follow_eq_length_iff (es : List ε) :
    run (follow script) 0 es = script.length ↔ script.Sublist es :=
  run_follow_eq_iff (Nat.zero_le _) es

end Script

end Lib
