import UpfEdge.Lib.Run

/-!
# Refinement by orders

A machine refines a simpler one when every event of it means at most one order to the simpler one:
`abs` says which state of the simpler machine a state stands for, and `order` which order an event
is, if it is one.  `orders` collects the orders of a run, and `run_refines` lifts what one step does
to runs: the state after a run stands for what the orders of the run make of the first one.
-/

namespace Lib

variable {σ τ ε ω : Type}

/-- The orders that the events of a run amount to. -/
def orders (step : σ → ε → σ) (order : σ → ε → Option ω) : σ → List ε → List ω
  | _, [] => []
  | s, e :: es => (order s e).toList ++ orders step order (step s e) es

section

variable {step : σ → ε → σ} {order : σ → ε → Option ω} {apply : τ → ω → τ} {I : σ → Prop}
  {guard : σ → ε → Prop}

theorem orders_append (s : σ) (es es' : List ε) :
    orders step order s (es ++ es') =
      orders step order s es ++ orders step order (run step s es) es' := by
  induction es generalizing s with
  | nil => rfl
  | cons e es ih => rw [List.cons_append, orders, ih, orders, List.append_assoc, run_cons]

/-- **The refinement rule.** -/
theorem run_refines (abs : σ → τ) (hinv : ∀ s e, I s → guard s e → I (step s e))
    (hstep : ∀ s e, I s → guard s e →
      abs (step s e) = run apply (abs s) (order s e).toList) {es : List ε} {s : σ} (h : I s)
    (hm : Meets step guard s es) :
    abs (run step s es) = run apply (abs s) (orders step order s es) := by
  induction es generalizing s with
  | nil => rfl
  | cons e es ih =>
    rw [run_cons, ih (hinv s e h hm.1) hm.2, hstep s e h hm.1, orders, run_append]

end

end Lib
