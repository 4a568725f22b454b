import Mathlib.Data.List.MinMax
import Mathlib.Data.List.Nodup
import Mathlib.Data.List.Perm.Subperm

/-!
# Searching a list for the least

A search that walks a list once and keeps the first candidate of the least rank below a bound is
`List.argmin` on the candidates below the bound (`foldl_leastStep`), and finds the one that is less
than all before it and not greater than any behind it (`least_eq_some_iff`).

What the entries have may arrive one by one.  What such a search finds at some time is then what
has come first when it arrived, and the last to do so (`foremost_iff_latest`).
-/

namespace Lib

variable {α β γ : Type}

/-- One turn of the search: the best candidate so far and its rank, or the bound. -/
def leastStep [LT β] [DecidableLT β] (cand : α → Option γ) (rank : γ → β) (best : Option γ × β)
    (a : α) : Option γ × β :=
  match cand a with
  | none => best
  | some c => if rank c < best.2 then (some c, rank c) else best

section

variable [LinearOrder β] {cand : α → Option γ} {rank : γ → β}

/-- What the search should find. -/
def least (cand : α → Option γ) (rank : γ → β) (top : β) (as : List α) : Option γ :=
  ((as.filterMap cand).filter fun c => rank c < top).argmin rank

theorem rank_lt_of_least {top : β} {as : List α} {c : γ} (h : least cand rank top as = some c) :
    rank c < top := by
  have hmem := List.argmin_mem (Option.mem_def.mpr h)
  simpa using (List.mem_filter.mp hmem).2

/-- What is found comes from an entry. -/
theorem mem_of_least {top : β} {as : List α} {c : γ} (h : least cand rank top as = some c) :
    ∃ a ∈ as, cand a = some c := by
  have hmem := List.argmin_mem (Option.mem_def.mpr h)
  exact List.mem_filterMap.mp (List.mem_of_mem_filter hmem)

theorem least_concat (top : β) (as : List α) (a : α) :
    least cand rank top (as ++ [a]) =
      match cand a with
      | none => least cand rank top as
      | some c =>
        if rank c < ((least cand rank top as).map rank).getD top then some c
        else least cand rank top as := by
  unfold least
  rw [List.filterMap_append, List.filter_append]
  cases hc : cand a with
  | none => simp [hc]
  | some c =>
    rw [List.filterMap_cons_some hc, List.filterMap_nil]
    by_cases htop : rank c < top
    · rw [List.filter_cons_of_pos (by simpa using htop), List.filter_nil, List.argmin_concat]
      cases ((as.filterMap cand).filter fun c => rank c < top).argmin rank with
      | none => simp [htop]
      | some m =>
        simp only [Option.map_some, Option.getD_some]
    · rw [List.filter_cons_of_neg (by simpa using htop), List.filter_nil, List.append_nil]
      cases hfound : ((as.filterMap cand).filter fun c => rank c < top).argmin rank with
      | none => simp [htop]
      | some m =>
        have hm : rank m < top := rank_lt_of_least hfound
        have hnot : ¬ rank c < rank m := fun hlt => htop (hlt.trans hm)
        simp [hnot]

/-- The search ends with a rank that no candidate is below. -/
theorem least_le {top : β} {as : List α} {a : α} {c : γ} (ha : a ∈ as) (hc : cand a = some c) :
    ((least cand rank top as).map rank).getD top ≤ rank c := by
  have hbound : ((least cand rank top as).map rank).getD top ≤ top := by
    cases h : least cand rank top as with
    | none => exact le_refl top
    | some m => exact (rank_lt_of_least h).le
  by_cases htop : rank c < top
  · have hmem : c ∈ (as.filterMap cand).filter fun c => rank c < top :=
      List.mem_filter.mpr ⟨List.mem_filterMap.mpr ⟨a, ha, hc⟩, by simpa using htop⟩
    cases h : least cand rank top as with
    | none =>
      rw [List.argmin_eq_none.mp h] at hmem
      cases hmem
    | some m => exact List.le_of_mem_argmin hmem (Option.mem_def.mpr h)
  · exact hbound.trans (not_lt.mp htop)

/-- **What the search finds**: a candidate below the bound that is less than all before it and not
greater than any behind it. -/
theorem least_eq_some_iff {top : β} {as : List α} {c : γ} : least cand rank top as = some c ↔
    ∃ pre a post, as = pre ++ a :: post ∧ cand a = some c ∧ rank c < top ∧
      (∀ b ∈ pre, ∀ d, cand b = some d → rank c < rank d) ∧
      ∀ b ∈ post, ∀ d, cand b = some d → rank c ≤ rank d := by
  induction as using List.reverseRecOn generalizing c with
  | nil => simp [least]
  | append_singleton as a ih =>
    rw [least_concat]
    constructor
    · intro h
      -- what was found in `as` stays, or `a` is the first that is less
      have hkept : least cand rank top as = some c → (∀ d, cand a = some d → rank c ≤ rank d) →
          ∃ pre b post, as ++ [a] = pre ++ b :: post ∧ cand b = some c ∧ rank c < top ∧
            (∀ b ∈ pre, ∀ d, cand b = some d → rank c < rank d) ∧
            ∀ b ∈ post, ∀ d, cand b = some d → rank c ≤ rank d := by
        intro hleast hle
        obtain ⟨pre, b, post, rfl, hb, hlt, hpre, hpost⟩ := ih.mp hleast
        refine ⟨pre, b, post ++ [a], by simp, hb, hlt, hpre, fun b' hb' => ?_⟩
        rcases List.mem_append.mp hb' with hb' | hb'
        · exact hpost b' hb'
        · obtain rfl := List.mem_singleton.mp hb'
          exact hle
      cases ha : cand a with
      | none =>
        rw [ha] at h
        exact hkept h fun d hd => by rw [ha] at hd; cases hd
      | some d =>
        rw [ha] at h
        simp only at h
        split_ifs at h with hlt
        · obtain rfl := Option.some.inj h
          have hbelow : ∀ b ∈ as, ∀ d', cand b = some d' → rank d < rank d' :=
            fun b hb d' hd' => hlt.trans_le (least_le hb hd')
          refine ⟨as, a, [], rfl, ha, hlt.trans_le ?_, hbelow, by simp⟩
          cases hleast : least cand rank top as with
          | none => exact le_refl top
          | some m => exact (rank_lt_of_least hleast).le
        · refine hkept h fun d' hd' => ?_
          rw [h, Option.map_some, Option.getD_some, not_lt] at hlt
          rw [ha] at hd'
          rwa [← Option.some.inj hd']
    · rintro ⟨pre, b, post, hsplit, hb, hlt, hpre, hpost⟩
      rcases List.eq_nil_or_concat post with rfl | ⟨post, a', rfl⟩
      · obtain ⟨rfl, hab⟩ := List.append_inj' hsplit rfl
        obtain rfl := List.singleton_inj.mp hab
        rw [hb]
        refine if_pos ?_
        cases hleast : least cand rank top as with
        | none => exact hlt
        | some m =>
          obtain ⟨b, hmem, hm⟩ := mem_of_least hleast
          exact hpre b hmem m hm
      · rw [List.concat_eq_append, ← List.cons_append, ← List.append_assoc] at hsplit
        obtain ⟨rfl, hab⟩ := List.append_inj' hsplit rfl
        obtain rfl := List.singleton_inj.mp hab
        have hleast := ih.mpr ⟨pre, b, post, rfl, hb, hlt, hpre, fun b' hb' =>
          hpost b' (by simp [hb'])⟩
        rw [hleast]
        cases ha : cand a with
        | none => rfl
        | some d => exact if_neg (not_lt.mpr (hpost a (by simp) d ha))

/-- Entries that are first looked up. -/
theorem least_filterMap {δ : Type} (top : β) (f : δ → Option α) (ds : List δ) :
    least cand rank top (ds.filterMap f) = least (fun d => (f d).bind cand) rank top ds := by
  unfold least
  rw [List.filterMap_filterMap]

/-- **A search that keeps the first least candidate finds the least.** -/
theorem foldl_leastStep (top : β) (as : List α) :
    as.foldl (leastStep cand rank) (none, top) =
      (least cand rank top as, ((least cand rank top as).map rank).getD top) := by
  induction as using List.reverseRecOn with
  | nil => rfl
  | append_singleton as a ih =>
    rw [List.foldl_append, ih, List.foldl_cons, List.foldl_nil, leastStep, least_concat]
    cases cand a with
    | none => rfl
    | some c =>
      simp only
      split_ifs <;> rfl

end

section Arrivals

variable {φ : Type} (fits : α → Prop) (ahead behind : α → α → Prop) (names : φ → α → Bool)

/-- An entry that fits has `f`, and no entry that fits and is preferred to it has anything: `ahead`
says which entries are preferred of those before it in the list, and `behind` of those after it. -/
def Foremost (look : α → Option φ) (as : List α) (f : φ) : Prop :=
  ∃ pre a post, as = pre ++ a :: post ∧ fits a ∧ look a = some f ∧
    (∀ b ∈ pre, fits b → ahead b a → look b = none) ∧
    ∀ b ∈ post, fits b → behind b a → look b = none

/-- `f`, which arrives after `before`, is for an entry that fits, and neither `f` nor any of
`before` is for an entry that is preferred to this one. -/
def ComesFirst (as : List α) (before : List φ) (f : φ) : Prop :=
  ∃ pre a post, as = pre ++ a :: post ∧ fits a ∧ names f a ∧
    (∀ b ∈ pre, fits b → ahead b a → ∀ g ∈ before ++ [f], ¬ names g b) ∧
    ∀ b ∈ post, fits b → behind b a → ∀ g ∈ before ++ [f], ¬ names g b

variable {fits ahead behind names} {as : List α}

/-- The last of a list that is for an entry. -/
theorem getLast?_filter_eq_some_iff {part : List φ} {p : φ → Bool} {f : φ} :
    (part.filter p).getLast? = some f ↔
      ∃ before after, part = before ++ f :: after ∧ p f ∧ ∀ g ∈ after, ¬ p g := by
  rw [List.getLast?_filter, List.find?_eq_some_iff_append]
  constructor
  · rintro ⟨hf, pre, post, hrev, hpre⟩
    refine ⟨post.reverse, pre.reverse, ?_, hf, fun g hg => ?_⟩
    · rw [← List.reverse_reverse part, hrev]
      simp
    · simpa using hpre g (List.mem_reverse.mp hg)
  · rintro ⟨before, after, rfl, hf, hafter⟩
    exact ⟨hf, after.reverse, before.reverse, by simp,
      fun g hg => by simpa using hafter g (List.mem_reverse.mp hg)⟩

theorem getLast?_filter_eq_none_iff {part : List φ} {p : φ → Bool} :
    (part.filter p).getLast? = none ↔ ∀ g ∈ part, ¬ p g := by
  rw [List.getLast?_eq_none_iff, List.filter_eq_nil_iff]

/-- `f` came as `comes` says, and none of `part` that arrived later did. -/
def Latest (comes : List φ → φ → Prop) (part : List φ) (f : φ) : Prop :=
  ∃ before after, part = before ++ f :: after ∧ comes before f ∧
    ∀ mid g rest, after = mid ++ g :: rest → ¬ comes (before ++ f :: mid) g

theorem Latest.unique {comes : List φ → φ → Prop} {part : List φ} {f g : φ}
    (hf : Latest comes part f) (hg : Latest comes part g) : f = g := by
  obtain ⟨before, after, rfl, hcomes, hlast⟩ := hf
  obtain ⟨before', after', hsplit, hcomes', hlast'⟩ := hg
  rcases List.append_eq_append_iff.mp hsplit with ⟨mid, rfl, heq⟩ | ⟨mid, rfl, heq⟩
  · cases mid with
    | nil => exact (List.cons.inj heq).1
    | cons f' mid =>
      obtain ⟨rfl, rfl⟩ := List.cons.inj heq
      exact absurd hcomes' (hlast mid g after' rfl)
  · cases mid with
    | nil => exact (List.cons.inj heq).1.symm
    | cons g' mid =>
      obtain ⟨rfl, rfl⟩ := List.cons.inj heq
      exact absurd hcomes (hlast' mid f after rfl)

/-- What holds of the latest at any time, and of each when it comes. -/
theorem forall_latest_iff {comes : List φ → φ → Prop} (P : φ → Prop) {fs : List φ} :
    (∀ part, part <+: fs → ∀ f, Latest comes part f → P f) ↔
      ∀ before f after, fs = before ++ f :: after → comes before f → P f := by
  constructor
  · rintro h before f after rfl hcomes
    exact h (before ++ [f]) ⟨after, by simp⟩ f ⟨before, [], rfl, hcomes, by simp⟩
  · rintro h part ⟨rest, rfl⟩ f ⟨before, after, rfl, hcomes, -⟩
    exact h before f (after ++ rest) (by simp) hcomes

section Preferred

variable (hpref : ∀ a b, ahead a b ↔ ¬ behind b a)
  (htrans : ∀ {a b c}, behind b a → ahead a c → ahead b c ∧ behind b c)

include hpref

theorem Foremost.latest {part : List φ} {f : φ}
    (h : Foremost fits ahead behind (fun a => (part.filter (names · a)).getLast?) as f) :
    Latest (ComesFirst fits ahead behind names as) part f := by
  obtain ⟨pre, a, post, rfl, hfits, hlook, hpre, hpost⟩ := h
  obtain ⟨before, after, rfl, hnames, hafter⟩ := getLast?_filter_eq_some_iff.mp hlook
  have hearlier : before ++ [f] ⊆ before ++ f :: after :=
    (show before ++ [f] <+: before ++ f :: after from ⟨after, by simp⟩).subset
  refine ⟨before, after, rfl, ⟨pre, a, post, rfl, hfits, hnames, ?_, ?_⟩, ?_⟩
  · exact fun b hb hf hahead g hg =>
      getLast?_filter_eq_none_iff.mp (hpre b hb hf hahead) g (hearlier hg)
  · exact fun b hb hf hbehind g hg =>
      getLast?_filter_eq_none_iff.mp (hpost b hb hf hbehind) g (hearlier hg)
  · -- a later one is for an entry that is not preferred to `a`, or `a` is preferred to it
    rintro mid g rest rfl ⟨pre', b, post', hsplit, hfits', hnames', hpre', hpost'⟩
    have hg : g ∈ before ++ f :: (mid ++ g :: rest) := by simp
    have hf : f ∈ (before ++ f :: mid) ++ [g] := by simp
    rcases List.append_eq_append_iff.mp hsplit with ⟨between, rfl, heq⟩ | ⟨between, rfl, heq⟩
    · cases between with
      | nil =>
        obtain ⟨rfl, -⟩ := List.cons.inj heq
        exact hafter g (by simp) hnames'
      | cons a' between =>
        obtain ⟨rfl, rfl⟩ := List.cons.inj heq
        by_cases hbehind : behind b a
        · exact getLast?_filter_eq_none_iff.mp (hpost b (by simp) hfits' hbehind) g hg hnames'
        · exact hpre' a (by simp) hfits ((hpref a b).mpr hbehind) f hf hnames
    · cases between with
      | nil =>
        obtain ⟨rfl, -⟩ := List.cons.inj heq
        exact hafter g (by simp) hnames'
      | cons b' between =>
        obtain ⟨rfl, rfl⟩ := List.cons.inj heq
        by_cases hbehind : behind a b
        · exact hpost' a (by simp) hfits hbehind f hf hnames
        · exact getLast?_filter_eq_none_iff.mp
            (hpre b (by simp) hfits' ((hpref b a).mpr hbehind)) g hg hnames'

include htrans

/-- Where an entry that fits has something, one of them is foremost. -/
theorem exists_foremost {look : α → Option φ} (h : ∃ a ∈ as, fits a ∧ look a ≠ none) :
    ∃ f, Foremost fits ahead behind look as f := by
  induction as with
  | nil => simp at h
  | cons a as ih =>
    by_cases hrest : ∃ b ∈ as, fits b ∧ look b ≠ none
    · obtain ⟨f, pre, c, post, rfl, hfits, hlook, hpre, hpost⟩ := ih hrest
      by_cases hfirst : fits a ∧ look a ≠ none ∧ ahead a c
      · obtain ⟨hfits', hsome, hahead⟩ := hfirst
        obtain ⟨g, hg⟩ := Option.ne_none_iff_exists'.mp hsome
        refine ⟨g, [], a, pre ++ c :: post, rfl, hfits', hg, by simp, fun b hb hf hbehind => ?_⟩
        obtain ⟨hahead', hbehind'⟩ := htrans hbehind hahead
        rcases List.mem_append.mp hb with hb | hb
        · exact hpre b hb hf hahead'
        rcases List.mem_cons.mp hb with rfl | hb
        · exact absurd hbehind ((hpref a b).mp hahead)
        · exact hpost b hb hf hbehind'
      · refine ⟨f, a :: pre, c, post, rfl, hfits, hlook, fun b hb hf hahead => ?_, hpost⟩
        rcases List.mem_cons.mp hb with rfl | hb
        · by_contra hsome
          exact hfirst ⟨hf, hsome, hahead⟩
        · exact hpre b hb hf hahead
    · obtain ⟨b, hb, hfits, hsome⟩ := h
      rcases List.mem_cons.mp hb with rfl | hb
      · obtain ⟨g, hg⟩ := Option.ne_none_iff_exists'.mp hsome
        refine ⟨g, [], b, as, rfl, hfits, hg, by simp, fun c hc hf _ => ?_⟩
        by_contra hsome'
        exact hrest ⟨c, hc, hf, hsome'⟩
      · exact absurd ⟨b, hb, hfits, hsome⟩ hrest

/-- **What is foremost at some time is the latest that came first when it arrived.** -/
theorem foremost_iff_latest {part : List φ} {f : φ} :
    Foremost fits ahead behind (fun a => (part.filter (names · a)).getLast?) as f ↔
      Latest (ComesFirst fits ahead behind names as) part f := by
  refine ⟨Foremost.latest hpref, fun h => ?_⟩
  obtain ⟨before, after, rfl, ⟨pre, a, post, rfl, hfits, hnames, -, -⟩, -⟩ := id h
  have hsome : ∃ b ∈ pre ++ a :: post, fits b ∧
      ((before ++ f :: after).filter (names · b)).getLast? ≠ none :=
    ⟨a, by simp, hfits, fun hnone => getLast?_filter_eq_none_iff.mp hnone f (by simp) hnames⟩
  obtain ⟨g, hg⟩ := exists_foremost hpref htrans hsome
  obtain rfl := h.unique (hg.latest hpref)
  exact hg

end Preferred

end Arrivals

/-- A relation to those before and one to those behind, read at every entry or at every pair. -/
theorem pairwise_and_iff {R S : α → α → Prop} {as : List α} :
    as.Pairwise (fun a b => R a b ∧ S b a) ↔
      ∀ pre a post, as = pre ++ a :: post → (∀ b ∈ pre, R b a) ∧ ∀ b ∈ post, S b a := by
  constructor
  · rintro h pre a post rfl
    obtain ⟨-, hpost, hpre⟩ := List.pairwise_append.mp h
    exact ⟨fun b hb => (hpre b hb a List.mem_cons_self).1,
      fun b hb => ((List.pairwise_cons.mp hpost).1 b hb).2⟩
  · intro h
    induction as with
    | nil => exact .nil
    | cons a as ih =>
      refine List.pairwise_cons.mpr ⟨fun b hb => ⟨?_, (h [] a as rfl).2 b hb⟩, ih ?_⟩
      · obtain ⟨pre, post, rfl⟩ := List.append_of_mem hb
        exact (h (a :: pre) b post rfl).1 a List.mem_cons_self
      · rintro pre b post rfl
        obtain ⟨hpre, hpost⟩ := h (a :: pre) b post rfl
        exact ⟨fun c hc => hpre c (List.mem_cons_of_mem _ hc), hpost⟩

/-- A list that is shorter than a range of values misses one of them. -/
theorem exists_notMem_of_length_lt {f : ℕ → α} {n : ℕ}
    (hf : ∀ i < n, ∀ j < n, f i = f j → i = j) {as : List α} (h : as.length < n) :
    ∃ i < n, f i ∉ as := by
  by_contra hnone
  push Not at hnone
  have hnodup : ((List.range n).map f).Nodup :=
    List.Nodup.map_on (fun i hi j hj => hf i (List.mem_range.mp hi) j (List.mem_range.mp hj))
      List.nodup_range
  have hsub : (List.range n).map f ⊆ as := by
    intro a ha
    obtain ⟨i, hi, rfl⟩ := List.mem_map.mp ha
    exact hnone i (List.mem_range.mp hi)
  have hle := (hnodup.subperm hsub).length_le
  rw [List.length_map, List.length_range] at hle
  omega

end Lib
