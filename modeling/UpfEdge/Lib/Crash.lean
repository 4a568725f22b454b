import UpfEdge.Lib.Words

/-!
# Code that can crash

The result of a piece of code that indexes and slices byte buffers: a value, an error it returns, a
panic at an access outside the buffer, or no result at all when a loop is given fewer turns than it
takes.  The accesses (`index`, `slice`, `sliceFrom`, `usizeSub`) panic exactly where the language
does.

A function in this monad is shown safe by an equation with a total one: `ofExcept r` is neither a
panic nor a missing result, and the rules below push `ofExcept` through binds, folds and maps.
-/

namespace Lib

inductive Crash (ε α : Type) where
  | ok (a : α)
  | err (e : ε)
  | panic
  | stuck
  deriving DecidableEq, Repr

namespace Crash

variable {ε ε' α β : Type}

def bind (x : Crash ε α) (f : α → Crash ε β) : Crash ε β :=
  match x with
  | ok a => f a
  | err e => err e
  | panic => panic
  | stuck => stuck

instance : Monad (Crash ε) where
  pure := ok
  bind := bind

instance : LawfulMonad (Crash ε) := LawfulMonad.mk' (Crash ε)
  (fun x => by cases x <;> rfl) (fun _ _ => rfl) (fun x _ _ => by cases x <;> rfl)

/-- `map_err`. -/
def mapError (f : ε → ε') : Crash ε α → Crash ε' α
  | ok a => ok a
  | err e => err (f e)
  | panic => panic
  | stuck => stuck

/-- `Result::ok`: an error is dropped, a panic is not. -/
def discard : Crash ε α → Crash ε' (Option α)
  | ok a => ok (some a)
  | err _ => ok none
  | panic => panic
  | stuck => stuck

def ofExcept : Except ε α → Crash ε α
  | .ok a => ok a
  | .error e => err e

/-! ### Accesses -/

/-- `buf[i]`. -/
def index (buf : Bytes) (i : ℕ) : Crash ε UInt8 :=
  match buf[i]? with
  | some b => ok b
  | none => panic

/-- `&buf[i..j]`. -/
def slice (buf : Bytes) (i j : ℕ) : Crash ε Bytes :=
  if i ≤ j ∧ j ≤ buf.length then ok ((buf.drop i).take (j - i)) else panic

/-- `&buf[i..]`. -/
def sliceFrom (buf : Bytes) (i : ℕ) : Crash ε Bytes :=
  if i ≤ buf.length then ok (buf.drop i) else panic

/-- `m - n` on `usize`, with overflow checks on. -/
def usizeSub (m n : ℕ) : Crash ε ℕ := if n ≤ m then ok (m - n) else panic

@[simp]
theorem index_of_lt {buf : Bytes} {i : ℕ} (h : i < buf.length) :
    (index buf i : Crash ε UInt8) = ok buf[i] := by
  simp [index, h]

theorem slice_of_le {buf : Bytes} {i j : ℕ} (hij : i ≤ j) (hj : j ≤ buf.length) :
    (slice buf i j : Crash ε Bytes) = ok ((buf.drop i).take (j - i)) :=
  if_pos ⟨hij, hj⟩

theorem sliceFrom_of_le {buf : Bytes} {i : ℕ} (h : i ≤ buf.length) :
    (sliceFrom buf i : Crash ε Bytes) = ok (buf.drop i) :=
  if_pos h

theorem usizeSub_of_le {m n : ℕ} (h : n ≤ m) : (usizeSub m n : Crash ε ℕ) = ok (m - n) := if_pos h

/-! ### Safety by equation -/

@[simp]
theorem ok_bind (a : α) (f : α → Crash ε β) : (ok a >>= f) = f a := rfl

@[simp]
theorem err_bind (e : ε) (f : α → Crash ε β) : (err e >>= f) = err e := rfl

@[simp]
theorem pure_eq (a : α) : (pure a : Crash ε α) = ok a := rfl

@[simp]
theorem ofExcept_ok (a : α) : (ofExcept (.ok a) : Crash ε α) = ok a := rfl

@[simp]
theorem ofExcept_error (e : ε) : (ofExcept (.error e) : Crash ε α) = err e := rfl

theorem ofExcept_bind (x : Except ε α) (f : α → Except ε β) :
    ofExcept (x >>= f) = ofExcept x >>= fun a => ofExcept (f a) := by
  cases x <;> rfl

theorem ofExcept_mapError (f : ε → ε') (x : Except ε α) :
    ofExcept (x.mapError f) = (ofExcept x).mapError f := by
  cases x <;> rfl

theorem ofExcept_discard (x : Except ε α) :
    ((ofExcept x).discard : Crash ε' (Option α)) = ok x.toOption := by
  cases x <;> rfl

/-- Neither a panic nor a missing result. -/
def Safe (x : Crash ε α) : Prop := x ≠ panic ∧ x ≠ stuck

/-- A result that comes from a total function is safe. -/
theorem ofExcept_safe (x : Except ε α) : (ofExcept x).Safe := by
  cases x <;> exact ⟨nofun, nofun⟩

theorem Safe.bind {x : Crash ε α} {f : α → Crash ε β} (hx : x.Safe) (hf : ∀ a, (f a).Safe) :
    (x >>= f).Safe := by
  cases x with
  | ok a => exact hf a
  | err e => exact ⟨nofun, nofun⟩
  | panic => exact absurd rfl hx.1
  | stuck => exact absurd rfl hx.2

/-- Safe, and with the result of a total function. -/
structure Computes (x : Crash ε α) (y : Except ε α) : Prop where
  safe : x.Safe
  eq : x = ofExcept y

theorem Computes.of_eq {x : Crash ε α} {y : Except ε α} (h : x = ofExcept y) : Computes x y :=
  ⟨h ▸ ofExcept_safe y, h⟩

theorem foldlM_ofExcept {σ : Type} {f : σ → α → Crash ε σ} {g : σ → α → Except ε σ} :
    ∀ {l : List α}, (∀ a ∈ l, ∀ s, f s a = ofExcept (g s a)) → ∀ s : σ,
      l.foldlM f s = ofExcept (l.foldlM g s)
  | [], _, _ => rfl
  | a :: l, h, s => by
    rw [List.foldlM_cons, List.foldlM_cons, ofExcept_bind, h a (List.mem_cons_self ..)]
    congr 1
    funext s'
    exact foldlM_ofExcept (fun b hb => h b (List.mem_cons_of_mem _ hb)) s'

theorem mapM_ofExcept {f : α → Crash ε β} {g : α → Except ε β} :
    ∀ {l : List α}, (∀ a ∈ l, f a = ofExcept (g a)) → l.mapM f = ofExcept (l.mapM g)
  | [], _ => rfl
  | a :: l, h => by
    rw [List.mapM_cons, List.mapM_cons, ofExcept_bind, h a (List.mem_cons_self ..),
      mapM_ofExcept fun b hb => h b (List.mem_cons_of_mem _ hb)]
    congr 1
    funext b
    rw [ofExcept_bind]
    rfl

end Crash

end Lib
