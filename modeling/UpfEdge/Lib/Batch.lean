import Mathlib.Data.List.Basic
import Mathlib.Data.List.Nodup
import Mathlib.Data.List.Pairwise
import Mathlib.Logic.Function.Conjugate

/-!
# Batches of fallible steps

A batch is a list of entries worked off by `xs.foldlM f s`, where `f s a` is the state after the
entry `a` or a refusal.  The order of a batch makes no difference when any two of its entries may be
swapped (`Commutes`), and an entry that is skipped makes none at all.  `Rearranges same skip` is the
relation between batches that these two observations allow, and `foldlM_of_rearranges` that related
batches come to the same.

Entries commute when what they do to the state is put together from writes to different places.
`Acts f a u` says that `a` is refused in every state or applies one function, `Composed writes T`
that a function is made of writes with keys in `T`.
-/

namespace Lib

variable {α σ τ : Type}

/-- Two entries may be worked off in either order. -/
def Commutes (f : σ → α → Option σ) (a b : α) : Prop :=
  ∀ s, (f s a).bind (fun s' => f s' b) = (f s b).bind (fun s' => f s' a)

/-- A batch is made from another one by changing the order, by putting in entries that are skipped,
and by putting entries that mean the same in the place of others. -/
inductive Rearranges (same : α → α → Prop) (skip : α → Prop) : List α → List α → Prop
  | perm {xs ys : List α} (h : xs.Perm ys) : Rearranges same skip xs ys
  | insert {a : α} (xs ys : List α) (h : skip a) : Rearranges same skip (xs ++ ys) (xs ++ a :: ys)
  | replace {a b : α} (xs ys : List α) (h : same a b) :
    Rearranges same skip (xs ++ a :: ys) (xs ++ b :: ys)
  | trans {xs ys zs : List α} (h : Rearranges same skip xs ys) (h' : Rearranges same skip ys zs) :
    Rearranges same skip xs zs

/-! ### Rearranging a batch -/

section

variable {f : σ → α → Option σ}

theorem foldlM_cons_eq (a : α) (xs : List α) (s : σ) :
    (a :: xs).foldlM f s = (f s a).bind fun s' => xs.foldlM f s' := rfl

theorem Commutes.refl (a : α) : Commutes f a a := fun _ => rfl

theorem Commutes.symm {a b : α} (h : Commutes f a b) : Commutes f b a := fun s => (h s).symm

instance : Std.Symm (Commutes f) := ⟨fun _ _ => Commutes.symm⟩

/-- The order of a batch whose entries commute does not matter. -/
theorem foldlM_perm {xs ys : List α} (h : xs.Perm ys)
    (hcomm : ∀ a ∈ xs, ∀ b ∈ xs, Commutes f a b) (s : σ) : xs.foldlM f s = ys.foldlM f s := by
  induction h generalizing s with
  | nil => rfl
  | cons a h ih =>
    have hrest : ∀ b ∈ _, ∀ c ∈ _, Commutes f b c := fun b hb c hc =>
      hcomm b (List.mem_cons_of_mem a hb) c (List.mem_cons_of_mem a hc)
    rw [foldlM_cons_eq, foldlM_cons_eq]
    congr 1
    funext s'
    exact ih hrest s'
  | swap a b xs =>
    have hswap := hcomm a (by simp) b (by simp) s
    simp only [foldlM_cons_eq, ← Option.bind_assoc]
    rw [hswap]
  | trans h h' ih ih' =>
    have hcomm' : ∀ a ∈ _, ∀ b ∈ _, Commutes f a b := fun a ha b hb =>
      hcomm a (h.mem_iff.mpr ha) b (h.mem_iff.mpr hb)
    exact (ih hcomm s).trans (ih' hcomm' s)

theorem foldlM_congr_append (xs : List α) {ys zs : List α}
    (h : ∀ s, ys.foldlM f s = zs.foldlM f s) (s : σ) :
    (xs ++ ys).foldlM f s = (xs ++ zs).foldlM f s := by
  rw [List.foldlM_append, List.foldlM_append]
  congr 1
  funext s'
  exact h s'

/-- **Related batches come to the same.**  `P` is what the meaning of an entry rests on; skipped
entries and replacements have it too. -/
theorem foldlM_of_rearranges {same : α → α → Prop} {skip P : α → Prop}
    (hskip : ∀ a, skip a → P a ∧ ∀ s, f s a = some s)
    (hsame : ∀ a b, P a → same a b → P b ∧ ∀ s, f s b = f s a) {xs ys : List α}
    (h : Rearranges same skip xs ys) (hP : ∀ a ∈ xs, P a)
    (hcomm : ∀ a ∈ xs, ∀ b ∈ xs, Commutes f a b) :
    (∀ b ∈ ys, P b) ∧ (∀ a ∈ ys, ∀ b ∈ ys, Commutes f a b) ∧
      ∀ s, ys.foldlM f s = xs.foldlM f s := by
  induction h with
  | perm h =>
    exact ⟨fun b hb => hP b (h.mem_iff.mpr hb),
      fun a ha b hb => hcomm a (h.mem_iff.mpr ha) b (h.mem_iff.mpr hb),
      fun s => (foldlM_perm h hcomm s).symm⟩
  | @insert a xs ys h =>
    obtain ⟨hPa, hid⟩ := hskip a h
    have hall : ∀ b, Commutes f a b := by
      intro b s
      rw [hid, Option.bind_some]
      cases f s b with
      | none => rfl
      | some s' => exact (hid s').symm
    have hmem : ∀ b, b ∈ xs ++ a :: ys ↔ b = a ∨ b ∈ xs ++ ys := by
      intro b
      simp only [List.mem_append, List.mem_cons]
      tauto
    refine ⟨?_, ?_, ?_⟩
    · intro b hb
      rcases (hmem b).mp hb with rfl | hb
      · exact hPa
      · exact hP b hb
    · intro b hb c hc
      rcases (hmem b).mp hb with rfl | hb
      · exact hall c
      rcases (hmem c).mp hc with rfl | hc
      · exact (hall b).symm
      · exact hcomm b hb c hc
    · apply foldlM_congr_append
      intro s
      rw [foldlM_cons_eq, hid]
      rfl
  | @replace a b xs ys h =>
    obtain ⟨hPb, heq⟩ := hsame a b (hP a (by simp)) h
    -- whatever commutes with the entry commutes with its replacement
    have hall : ∀ c ∈ xs ++ a :: ys, Commutes f b c := by
      intro c hc s
      have hac := hcomm a (by simp) c hc s
      rw [← heq s] at hac
      exact hac.trans (Option.bind_congr fun s' _ => (heq s').symm)
    have hmem : ∀ c, c ∈ xs ++ b :: ys → c = b ∨ c ∈ xs ++ a :: ys := by
      intro c hc
      simp only [List.mem_append, List.mem_cons] at hc ⊢
      tauto
    refine ⟨?_, ?_, ?_⟩
    · intro c hc
      rcases hmem c hc with rfl | hc
      · exact hPb
      · exact hP c hc
    · intro c hc d hd
      rcases hmem c hc with hcb | hc <;> rcases hmem d hd with hdb | hd
      · rw [hcb, hdb]
        exact Commutes.refl b
      · rw [hcb]
        exact hall d hd
      · rw [hdb]
        exact (hall c hc).symm
      · exact hcomm c hc d hd
    · apply foldlM_congr_append
      intro s
      rw [foldlM_cons_eq, foldlM_cons_eq, heq]
  | trans h h' ih ih' =>
    obtain ⟨hP', hcomm', hfold⟩ := ih hP hcomm
    obtain ⟨hP'', hcomm'', hfold'⟩ := ih' hP' hcomm'
    exact ⟨hP'', hcomm'', fun s => (hfold' s).trans (hfold s)⟩

end

/-! ### Entries that write -/

/-- An entry is refused in every state or applies one function to it. -/
def Acts (f : σ → α → Option σ) (a : α) (u : Option (σ → σ)) : Prop := ∀ s, f s a = u.map (· s)

/-- A function made of writes with keys in `T`. -/
inductive Composed (writes : τ → (σ → σ) → Prop) (T : List τ) : (σ → σ) → Prop
  | id : Composed writes T id
  | step {u w : σ → σ} {t : τ} (h : Composed writes T u) (hw : writes t w) (ht : t ∈ T) :
    Composed writes T (w ∘ u)

section

variable {writes : τ → (σ → σ) → Prop} {T T' : List τ} {u w : σ → σ}

theorem Composed.write {t : τ} (hw : writes t w) (ht : t ∈ T) : Composed writes T w :=
  .step .id hw ht

theorem Composed.mono (h : Composed writes T u) (hT : ∀ t ∈ T, t ∈ T') : Composed writes T' u := by
  induction h with
  | id => exact .id
  | step _ hw ht ih => exact .step ih hw (hT _ ht)

theorem Composed.comp (hw : Composed writes T w) (hu : Composed writes T u) :
    Composed writes T (w ∘ u) := by
  induction hw with
  | id => exact hu
  | @step w v t _ hv ht ih =>
    change Composed writes T (v ∘ (w ∘ u))
    exact .step ih hv ht

/-- **Writes to different places commute**, also when many are put together. -/
theorem Composed.commute
    (hwrites : ∀ {t t' u w}, writes t u → writes t' w → t ≠ t' → Function.Commute u w)
    (hu : Composed writes T u) (hw : Composed writes T' w) (hd : ∀ t ∈ T, t ∉ T') :
    Function.Commute u w := by
  induction hu with
  | id => exact Function.Semiconj.id_left
  | @step u v t _ hv ht ih =>
    refine Function.Commute.comp_left ?_ ih
    clear ih
    induction hw with
    | id => exact Function.Semiconj.id_right
    | @step u' v' t' _ hv' ht' ih' =>
      refine Function.Commute.comp_right ?_ ih'
      refine hwrites hv hv' ?_
      rintro rfl
      exact hd _ ht ht'

end

section

variable {f : σ → α → Option σ} {writes : τ → (σ → σ) → Prop} {keys : α → List τ}

theorem commutes_of_acts {a b : α} {u w : Option (σ → σ)} (ha : Acts f a u) (hb : Acts f b w)
    (h : ∀ u' ∈ u, ∀ w' ∈ w, Function.Commute u' w') : Commutes f a b := by
  intro s
  rw [ha s, hb s]
  cases u with
  | none => cases w <;> simp [ha _]
  | some u =>
    cases w with
    | none => simp [hb _]
    | some w =>
      simp only [Option.map_some, Option.bind_some, ha _, hb _]
      rw [h u rfl w rfl s]

/-- An entry does what can be written under its keys. -/
def Writing (f : σ → α → Option σ) (writes : τ → (σ → σ) → Prop) (keys : α → List τ) (a : α) :
    Prop :=
  ∃ u, Acts f a u ∧ ∀ u' ∈ u, Composed writes (keys a) u'

/-- A batch of such entries does what can be written under all their keys. -/
theorem foldlM_writing {xs : List α} (h : ∀ a ∈ xs, Writing f writes keys a) :
    ∃ u : Option (σ → σ), (∀ s, xs.foldlM f s = u.map (· s)) ∧
      ∀ u' ∈ u, Composed writes (xs.flatMap keys) u' := by
  induction xs with
  | nil =>
    refine ⟨some id, fun s => rfl, ?_⟩
    rintro _ ⟨⟩
    exact .id
  | cons a xs ih =>
    obtain ⟨u, hu, hcu⟩ := h a (List.mem_cons_self ..)
    obtain ⟨w, hw, hcw⟩ := ih fun b hb => h b (List.mem_cons_of_mem a hb)
    refine ⟨u.bind fun u' => w.map (· ∘ u'), ?_, ?_⟩
    · intro s
      rw [foldlM_cons_eq, hu s]
      cases u with
      | none => rfl
      | some u' => cases w <;> simp [hw]
    · intro v hv
      obtain ⟨u', hu', hv⟩ := Option.bind_eq_some_iff.mp hv
      obtain ⟨w', hw', rfl⟩ := Option.map_eq_some_iff.mp hv
      rw [List.flatMap_cons]
      exact .comp ((hcw w' hw').mono fun t ht => List.mem_append_right _ ht)
        ((hcu u' hu').mono fun t ht => List.mem_append_left _ ht)

/-- Entries with different keys commute. -/
theorem commutes_of_writing {xs : List α} (h : ∀ a ∈ xs, Writing f writes keys a)
    (hwrites : ∀ {t t' u w}, writes t u → writes t' w → t ≠ t' → Function.Commute u w)
    (hd : (xs.flatMap keys).Nodup) : ∀ a ∈ xs, ∀ b ∈ xs, Commutes f a b := by
  have hpair : xs.Pairwise (Commutes f) := by
    rw [List.nodup_flatMap] at hd
    refine (hd.2.imp_of_mem ?_)
    intro a b ha hb hdisj
    obtain ⟨u, hu, hcu⟩ := h a ha
    obtain ⟨w, hw, hcw⟩ := h b hb
    exact commutes_of_acts hu hw fun u' hu' w' hw' =>
      Composed.commute hwrites (hcu u' hu') (hcw w' hw') fun t ht ht' => hdisj ht ht'
  exact List.Pairwise.forall_of_forall (fun a _ => Commutes.refl a) hpair

end

end Lib
