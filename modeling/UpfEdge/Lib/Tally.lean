import Mathlib.Algebra.BigOperators.Group.Finset.Piecewise
import Mathlib.Algebra.Group.Pi.Basic
import UpfEdge.Lib.Run
import UpfEdge.Lib.Table

/-!
# Counting in cells

A bounded table with a row of counters for each key, one counter for each cell (a CPU, a shard, a
replica).  A `Posting` adds an amount to one cell of one row; the row is made if it is not there,
and if there is no room for it the posting is lost.

Nothing else is lost (`Tallied.run`): after any postings, a row shows cell by cell what was added to
it, and a key without a row has had no posting, or the table is full.  So the sum over the cells
does not depend on the order of the postings or on the cells they fell into (`totals_perm`).
-/

namespace Lib

variable {K M : Type} [DecidableEq K] [AddCommMonoid M] {cap : ℕ}

structure Posting (K M : Type) where
  cell : ℕ
  key : K
  amount : M

/-- Add to one cell of a row. -/
def addAt (cell : ℕ) (amount : M) (row : ℕ → M) : ℕ → M :=
  Function.update row cell (row cell + amount)

/-- Make a posting. -/
def Posting.add (t : BoundedTable cap K (ℕ → M)) (x : Posting K M) : BoundedTable cap K (ℕ → M) :=
  match t.lookup x.key with
  | some _ => t.modify x.key (addAt x.cell x.amount)
  | none => (t.insert x.key (addAt x.cell x.amount 0)).getD t

/-- What postings add to a cell of a row. -/
def cellOf (xs : List (Posting K M)) (k : K) (cell : ℕ) : M :=
  (xs.map fun x => if x.key = k ∧ x.cell = cell then x.amount else 0).sum

/-- What postings add to a row. -/
def amountOf (xs : List (Posting K M)) (k : K) : M :=
  (xs.map fun x => if x.key = k then x.amount else 0).sum

/-- The sum of the first cells of a row. -/
def total (cells : ℕ) (row : ℕ → M) : M := ∑ i ∈ Finset.range cells, row i

/-! ### Sums -/

section Sums

theorem addAt_apply (cell : ℕ) (amount : M) (row : ℕ → M) (i : ℕ) :
    addAt cell amount row i = row i + if cell = i then amount else 0 := by
  by_cases hcell : cell = i
  · subst hcell
    simp [addAt]
  · simp [addAt, hcell, Function.update_of_ne (Ne.symm hcell)]

variable {xs ys : List (Posting K M)} {k : K}

theorem cellOf_concat (xs : List (Posting K M)) (x : Posting K M) (k : K) (cell : ℕ) :
    cellOf (xs ++ [x]) k cell =
      cellOf xs k cell + if x.key = k ∧ x.cell = cell then x.amount else 0 := by
  simp [cellOf]

theorem cellOf_eq_zero (h : ∀ x ∈ xs, x.key ≠ k) (cell : ℕ) : cellOf xs k cell = 0 := by
  refine List.sum_eq_zero fun m hm => ?_
  obtain ⟨x, hx, rfl⟩ := List.mem_map.mp hm
  exact if_neg fun hk => h x hx hk.1

theorem amountOf_append (xs ys : List (Posting K M)) (k : K) :
    amountOf (xs ++ ys) k = amountOf xs k + amountOf ys k := by
  rw [amountOf, List.map_append, List.sum_append]
  rfl

/-- The cells of a row share what is added to it. -/
theorem total_cellOf {cells : ℕ} (h : ∀ x ∈ xs, x.cell < cells) (k : K) :
    total cells (cellOf xs k) = amountOf xs k := by
  induction xs with
  | nil => exact Finset.sum_const_zero
  | cons x xs ih =>
    have hx : ∑ i ∈ Finset.range cells, (if x.key = k ∧ x.cell = i then x.amount else 0) =
        if x.key = k then x.amount else 0 := by
      by_cases hkey : x.key = k
      · simp only [hkey, true_and, if_true]
        rw [Finset.sum_ite_eq, if_pos (Finset.mem_range.mpr (h x (List.mem_cons_self ..)))]
      · simp [hkey]
    have hcell : cellOf (x :: xs) k =
        fun i => (if x.key = k ∧ x.cell = i then x.amount else 0) + cellOf xs k i := rfl
    rw [total, hcell, Finset.sum_add_distrib, hx]
    exact congrArg _ (ih fun y hy => h y (List.mem_cons_of_mem _ hy))

theorem total_add (cells : ℕ) (row row' : ℕ → M) :
    total cells (fun i => row i + row' i) = total cells row + total cells row' :=
  Finset.sum_add_distrib

/-- Summing up the cells in a loop. -/
theorem foldl_range_add (cells : ℕ) (row : ℕ → M) :
    (List.range cells).foldl (fun sum i => sum + row i) 0 = total cells row := by
  induction cells with
  | zero => rfl
  | succ n ih =>
    rw [List.range_succ, List.foldl_append, ih, total, total, Finset.sum_range_succ]
    rfl

/-- Neither the order nor the cells make a difference to what is added to a row. -/
theorem amountOf_perm (h : (xs.map fun x => (x.key, x.amount)).Perm
    (ys.map fun x => (x.key, x.amount))) (k : K) : amountOf xs k = amountOf ys k := by
  have hmap : ∀ zs : List (Posting K M), amountOf zs k =
      ((zs.map fun x => (x.key, x.amount)).map fun p => if p.1 = k then p.2 else 0).sum := by
    intro zs
    rw [List.map_map]
    rfl
  rw [hmap, hmap]
  exact (h.map _).sum_eq

end Sums

/-! ### What a table shows -/

theorem mem_keys {V : Type} {t : BoundedTable cap K V} {k : K} :
    k ∈ t.rows.keys ↔ (t.lookup k).isSome :=
  AList.mem_keys.symm.trans Table.lookup_isSome.symm

/-- From `t₀` on, the table `t` shows the postings `xs`. -/
structure Tallied (t₀ : BoundedTable cap K (ℕ → M)) (xs : List (Posting K M))
    (t : BoundedTable cap K (ℕ → M)) : Prop where
  row : ∀ k row, t.lookup k = some row →
    ∀ cell, row cell = (t₀.lookup k).getD 0 cell + cellOf xs k cell
  missing : ∀ k, t.lookup k = none →
    t₀.lookup k = none ∧ ((∀ x ∈ xs, x.key ≠ k) ∨ cap ≤ t.rows.keys.length)
  keys : ∀ k, (t.lookup k).isSome → (t₀.lookup k).isSome ∨ ∃ x ∈ xs, x.key = k

section Tallied

variable {t₀ t : BoundedTable cap K (ℕ → M)} {xs : List (Posting K M)}

theorem Tallied.refl : Tallied t₀ [] t₀ where
  row k row h cell := by rw [h]; exact (add_zero _).symm
  missing k h := ⟨h, .inl fun x hx => by cases hx⟩
  keys k h := .inl h

theorem Tallied.keys_concat (h : Tallied t₀ xs t) (x : Posting K M) {k : K}
    (hk : (t.lookup k).isSome) : (t₀.lookup k).isSome ∨ ∃ y ∈ xs ++ [x], y.key = k := by
  refine (h.keys k hk).imp_right ?_
  rintro ⟨y, hy, hkey⟩
  exact ⟨y, List.mem_append_left _ hy, hkey⟩

/-- A posting for which there is a row. -/
theorem Tallied.modify (h : Tallied t₀ xs t) (x : Posting K M) {old : ℕ → M}
    (hrow : t.lookup x.key = some old) :
    Tallied t₀ (xs ++ [x]) (t.modify x.key (addAt x.cell x.amount)) := by
  have hlookup := fun k => BoundedTable.lookup_modify t x.key k (addAt x.cell x.amount)
  have hsome : ∀ k, ((t.modify x.key (addAt x.cell x.amount)).lookup k).isSome =
      (t.lookup k).isSome := by
    intro k
    rw [hlookup]
    split_ifs <;> simp
  have hlength : (t.modify x.key (addAt x.cell x.amount)).rows.keys.length =
      t.rows.keys.length := Table.length_keys_congr fun k => hsome k
  constructor
  · intro k row hk cell
    rw [hlookup] at hk
    split_ifs at hk with heq
    · subst heq
      rw [hrow, Option.map_some] at hk
      obtain rfl := Option.some.inj hk
      rw [addAt_apply, cellOf_concat, h.row _ _ hrow, add_assoc]
      simp
    · rw [cellOf_concat, if_neg fun hx => heq hx.1.symm, add_zero]
      exact h.row k row hk cell
  · intro k hk
    have hne : k ≠ x.key := by
      rintro rfl
      have := hsome x.key
      rw [hk, hrow] at this
      cases this
    rw [hlookup, if_neg hne] at hk
    obtain ⟨hnone, hmiss⟩ := h.missing k hk
    refine ⟨hnone, hmiss.imp (fun hxs y hy => ?_) fun hfull => by rwa [hlength]⟩
    rcases List.mem_append.mp hy with hy | hy
    · exact hxs y hy
    · rw [List.mem_singleton.mp hy]
      exact hne.symm
  · intro k hk
    rw [hsome] at hk
    exact h.keys_concat x hk

/-- A posting for which a row is made. -/
theorem Tallied.insert (h : Tallied t₀ xs t) (x : Posting K M) {t' : BoundedTable cap K (ℕ → M)}
    (hrow : t.lookup x.key = none) (hins : t.insert x.key (addAt x.cell x.amount 0) = some t') :
    Tallied t₀ (xs ++ [x]) t' := by
  have hlookup := BoundedTable.lookup_of_insert hins
  have hroom : t.rows.keys.length < cap := by
    unfold BoundedTable.insert at hins
    split_ifs at hins with hif
    rcases hif with hsome | hlt
    · rw [show t.rows.lookup x.key = none from hrow] at hsome
      cases hsome
    · exact hlt
  obtain ⟨hnone, hfirst | hfull⟩ := h.missing x.key hrow
  swap
  · exact absurd hroom (Nat.not_lt.mpr hfull)
  constructor
  · intro k row hk cell
    rw [hlookup] at hk
    split_ifs at hk with heq
    · subst heq
      obtain rfl := Option.some.inj hk
      rw [addAt_apply, cellOf_concat, cellOf_eq_zero hfirst, hnone]
      simp
    · rw [cellOf_concat, if_neg fun hx => heq hx.1.symm, add_zero]
      exact h.row k row hk cell
  · intro k hk
    rw [hlookup] at hk
    split_ifs at hk with hne
    obtain ⟨hnone, hxs | hfull⟩ := h.missing k hk
    · refine ⟨hnone, .inl fun y hy => ?_⟩
      rcases List.mem_append.mp hy with hy | hy
      · exact hxs y hy
      · rw [List.mem_singleton.mp hy]
        exact Ne.symm hne
    · exact absurd hroom (Nat.not_lt.mpr hfull)
  · intro k hk
    rw [hlookup] at hk
    split_ifs at hk with heq
    · exact .inr ⟨x, by simp, heq.symm⟩
    · exact h.keys_concat x hk

/-- A posting that is lost. -/
theorem Tallied.lose (h : Tallied t₀ xs t) (x : Posting K M) (hrow : t.lookup x.key = none)
    (hins : t.insert x.key (addAt x.cell x.amount 0) = none) : Tallied t₀ (xs ++ [x]) t := by
  have hfull : cap ≤ t.rows.keys.length := by
    unfold BoundedTable.insert at hins
    split_ifs at hins with hif
    exact Nat.not_lt.mp fun hlt => hif (.inr hlt)
  refine ⟨fun k row hk cell => ?_, fun k hk => ⟨(h.missing k hk).1, .inr hfull⟩, fun k hk => ?_⟩
  · have hne : x.key ≠ k := by
      rintro rfl
      rw [hrow] at hk
      cases hk
    rw [cellOf_concat, if_neg fun hx => hne hx.1, add_zero]
    exact h.row k row hk cell
  · exact h.keys_concat x hk

/-- **One posting.** -/
theorem Tallied.add (h : Tallied t₀ xs t) (x : Posting K M) : Tallied t₀ (xs ++ [x]) (x.add t) := by
  unfold Posting.add
  cases hrow : t.lookup x.key with
  | some old => exact h.modify x hrow
  | none =>
    cases hins : t.insert x.key (addAt x.cell x.amount 0) with
    | some t' => exact h.insert x hrow hins
    | none => exact h.lose x hrow hins

/-- **Any number of postings.** -/
theorem Tallied.run (h : Tallied t₀ xs t) (ys : List (Posting K M)) :
    Tallied t₀ (xs ++ ys) (Lib.run (fun t x => Posting.add t x) t ys) := by
  induction ys generalizing t xs with
  | nil => rwa [List.append_nil]
  | cons y ys ih =>
    have hstep := ih (h.add y)
    rwa [List.append_assoc] at hstep

theorem tallied_run (t₀ : BoundedTable cap K (ℕ → M)) (xs : List (Posting K M)) :
    Tallied t₀ xs (Lib.run (fun t x => Posting.add t x) t₀ xs) :=
  Tallied.refl.run xs

/-- A row shows, summed over its cells, what was added to it. -/
theorem Tallied.total_eq (h : Tallied t₀ xs t) {cells : ℕ} (hcells : ∀ x ∈ xs, x.cell < cells)
    {k : K} {row : ℕ → M} (hrow : t.lookup k = some row) :
    total cells row = total cells ((t₀.lookup k).getD 0) + amountOf xs k := by
  rw [← total_cellOf hcells, ← total_add]
  exact congrArg _ (funext (h.row k row hrow))

/-- There is room for a row for every key that has one or gets one. -/
def Room (t : BoundedTable cap K (ℕ → M)) (xs : List (Posting K M)) : Prop :=
  (t.rows.keys ++ xs.map (·.key)).dedup.length ≤ cap

instance (t : BoundedTable cap K (ℕ → M)) (xs : List (Posting K M)) : Decidable (Room t xs) :=
  inferInstanceAs (Decidable (_ ≤ _))

/-- With room for all keys, no posting is lost. -/
theorem Tallied.isSome (h : Tallied t₀ xs t) (hroom : Room t₀ xs) {x : Posting K M} (hx : x ∈ xs) :
    (t.lookup x.key).isSome := by
  by_contra hnone
  have hmiss := (h.missing x.key (Option.not_isSome_iff_eq_none.mp hnone)).2
  have hfull : cap ≤ t.rows.keys.length := hmiss.resolve_left fun hxs => hxs x hx rfl
  -- the keys of the table and the missing one are among those there is room for
  have hsub : x.key :: t.rows.keys ⊆ (t₀.rows.keys ++ xs.map (·.key)).dedup := by
    intro k hk
    rw [List.mem_dedup, List.mem_append, mem_keys]
    rcases List.mem_cons.mp hk with rfl | hk
    · exact .inr (List.mem_map_of_mem hx)
    · refine (h.keys k (mem_keys.mp hk)).imp_right ?_
      rintro ⟨y, hy, rfl⟩
      exact List.mem_map_of_mem hy
  have hnodup : (x.key :: t.rows.keys).Nodup :=
    List.nodup_cons.mpr ⟨fun hmem => hnone (mem_keys.mp hmem), t.rows.keys_nodup⟩
  have hle := (hnodup.subperm hsub).length_le
  rw [List.length_cons] at hle
  have hcap : (t₀.rows.keys ++ xs.map (·.key)).dedup.length ≤ cap := hroom
  omega

/-- With room for all keys, the sums over the cells are what was added to the keys. -/
theorem Tallied.map_total (h : Tallied t₀ xs t) (hroom : Room t₀ xs) {cells : ℕ}
    (hcells : ∀ x ∈ xs, x.cell < cells) (k : K) :
    (t.lookup k).map (total cells) =
      if (t₀.lookup k).isSome ∨ k ∈ xs.map (·.key) then
        some (total cells ((t₀.lookup k).getD 0) + amountOf xs k)
      else none := by
  cases hk : t.lookup k with
  | some row =>
    have hkey : (t₀.lookup k).isSome ∨ k ∈ xs.map (·.key) := by
      refine (h.keys k (by rw [hk]; rfl)).imp_right ?_
      rintro ⟨y, hy, rfl⟩
      exact List.mem_map_of_mem hy
    rw [if_pos hkey, Option.map_some, h.total_eq hcells hk]
  | none =>
    refine (if_neg ?_).symm
    rintro (hold | hnew)
    · rw [(h.missing k hk).1] at hold
      cases hold
    · obtain ⟨x, hx, rfl⟩ := List.mem_map.mp hnew
      have hsome := h.isSome hroom hx
      rw [hk] at hsome
      cases hsome

/-- **The sums over the cells depend neither on the order of the postings nor on the cells they fall
into.** -/
theorem totals_perm (t₀ : BoundedTable cap K (ℕ → M)) {xs ys : List (Posting K M)}
    (hperm : (xs.map fun x => (x.key, x.amount)).Perm (ys.map fun x => (x.key, x.amount)))
    (hroom : Room t₀ xs) {cells : ℕ} (hxs : ∀ x ∈ xs, x.cell < cells)
    (hys : ∀ y ∈ ys, y.cell < cells) :
    ((Lib.run (fun t x => Posting.add t x) t₀ xs).rows.entries.map fun r =>
        (r.1, total cells r.2)).Perm
      ((Lib.run (fun t x => Posting.add t x) t₀ ys).rows.entries.map fun r =>
        (r.1, total cells r.2)) := by
  have hkeys : (xs.map (·.key)).Perm (ys.map (·.key)) := by
    have := hperm.map Prod.fst
    rwa [List.map_map, List.map_map] at this
  have hroom' : Room t₀ ys := by
    refine (le_of_eq ?_).trans hroom
    exact (hkeys.symm.append_left _).dedup.length_eq
  refine Table.entries_perm fun k => ?_
  refine ((tallied_run t₀ xs).map_total hroom hxs k).trans
    (((tallied_run t₀ ys).map_total hroom' hys k).trans ?_).symm
  simp only [amountOf_perm hperm, hkeys.mem_iff]

end Tallied

end Lib
