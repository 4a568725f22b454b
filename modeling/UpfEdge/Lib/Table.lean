import Mathlib.Data.List.AList

/-!
# Finite tables, with and without a capacity

`Table K V` is Mathlib's association list read as a finite map; `BoundedTable cap K V` is a table
that holds at most `cap` keys, so that inserting a new key into a full one fails.  The capacity is
a field of the type: no operation can overfill it.

Everything a proof needs of a table is a `lookup` equation: what one operation does to one key
(`lookup_insert_ite`, `lookup_erase_ite`), and what a whole list of operations leaves
(`lookup_eraseAll`; `foldl_put_eq` for inserts, `foldl_overwrite_eq` for changes of what is there).
-/

namespace Lib

/-- A finite map from `K` to `V`. -/
abbrev Table (K V : Type) : Type := AList fun _ : K => V

namespace Table

variable {K V : Type} [DecidableEq K]

/-- The value of a key.  `AList.lookup` transports it along the equality of the keys, on which the
kernel gets stuck when it evaluates a closed term; this one compares and projects. -/
def lookup (t : Table K V) (k : K) : Option V := (t.entries.find? (·.1 = k)).map Sigma.snd

def insert (t : Table K V) (k : K) (v : V) : Table K V := AList.insert k v t

def erase (t : Table K V) (k : K) : Table K V := AList.erase k t

/-- Rewrite the value of a key that is there; a missing key stays missing. -/
def modify (t : Table K V) (k : K) (f : V → V) : Table K V :=
  match t.lookup k with
  | some v => t.insert k (f v)
  | none => t

theorem lookup_eq_some {t : Table K V} {k : K} {v : V} :
    t.lookup k = some v ↔ (⟨k, v⟩ : Sigma fun _ : K => V) ∈ t.entries := by
  constructor
  · intro h
    obtain ⟨⟨k', v'⟩, hf, rfl⟩ := Option.map_eq_some_iff.mp h
    have hk : k' = k := by simpa using List.find?_some hf
    rw [← hk]
    exact List.mem_of_find?_eq_some hf
  · intro h
    unfold lookup
    cases hf : t.entries.find? (·.1 = k) with
    | none => exact absurd (decide_eq_true rfl) (List.find?_eq_none.mp hf _ h)
    | some s =>
      obtain ⟨k', v'⟩ := s
      obtain rfl : k' = k := by simpa using List.find?_some hf
      have hv : v' = v :=
        eq_of_heq (t.nodupKeys.eq_of_mk_mem (List.mem_of_find?_eq_some hf) h ▸ HEq.rfl)
      rw [hv]
      rfl

theorem lookup_eq (t : Table K V) (k : K) : t.lookup k = AList.lookup k t := by
  apply Option.ext
  intro v
  rw [lookup_eq_some, ← AList.mem_lookup_iff]
  rfl

theorem lookup_insert_ite (t : Table K V) (k j : K) (v : V) :
    (t.insert k v).lookup j = if j = k then some v else t.lookup j := by
  rw [lookup_eq, lookup_eq]
  split_ifs with h
  · subst h; exact AList.lookup_insert t
  · exact AList.lookup_insert_ne h

theorem lookup_erase_ite (t : Table K V) (k j : K) :
    (t.erase k).lookup j = if j = k then none else t.lookup j := by
  rw [lookup_eq, lookup_eq]
  split_ifs with h
  · subst h; exact AList.lookup_erase j t
  · exact AList.lookup_erase_ne h

theorem lookup_modify (t : Table K V) (k j : K) (f : V → V) :
    (t.modify k f).lookup j = if j = k then (t.lookup j).map f else t.lookup j := by
  unfold modify
  split
  · next v hv =>
    rw [lookup_insert_ite]
    split_ifs with h
    · subst h; rw [hv]; rfl
    · rfl
  · next hv =>
    split_ifs with h
    · subst h; rw [hv]; rfl
    · rfl

theorem lookup_isSome {t : Table K V} {k : K} : (t.lookup k).isSome ↔ k ∈ t := by
  rw [lookup_eq]
  exact AList.lookup_isSome

theorem length_keys_insert_new {t : Table K V} {k : K} (h : t.lookup k = none) (v : V) :
    (t.insert k v).keys.length = t.keys.length + 1 := by
  have hk : k ∉ t.keys := by
    intro hmem
    have hsome := lookup_isSome.mpr (AList.mem_keys.mpr hmem)
    rw [h] at hsome
    cases hsome
  rw [insert, AList.keys_insert, List.length_cons, List.erase_of_not_mem hk]

theorem length_keys_erase {t : Table K V} {k : K} (h : (t.lookup k).isSome) :
    (t.erase k).keys.length + 1 = t.keys.length := by
  have hk : k ∈ t.keys := AList.mem_keys.mp (lookup_isSome.mp h)
  have hpos := List.length_pos_of_mem hk
  rw [erase, AList.keys_erase, List.length_erase_of_mem hk]
  omega

/-- Tables with the same keys have as many entries. -/
theorem length_keys_congr {V' : Type} {t : Table K V} {t' : Table K V'}
    (h : ∀ k, (t.lookup k).isSome = (t'.lookup k).isSome) : t.keys.length = t'.keys.length := by
  refine List.Perm.length_eq ((List.perm_ext_iff_of_nodup t.keys_nodup t'.keys_nodup).mpr ?_)
  intro k
  rw [← AList.mem_keys, ← AList.mem_keys, ← lookup_isSome, ← lookup_isSome, h]

/-- Tables with the same values, as far as `g` and `g'` show them, have the same entries. -/
theorem entries_perm {V' W : Type} {t : Table K V} {t' : Table K V'} {g : V → W} {g' : V' → W}
    (h : ∀ k, (t.lookup k).map g = (t'.lookup k).map g') :
    (t.entries.map fun r => (r.1, g r.2)).Perm (t'.entries.map fun r => (r.1, g' r.2)) := by
  have hnodup : ∀ {U : Type} (u : Table K U) (f : U → W),
      (u.entries.map fun r => (r.1, f r.2)).Nodup := by
    intro U u f
    refine List.Nodup.of_map Prod.fst ?_
    rw [List.map_map]
    exact u.keys_nodup
  have hmem : ∀ {U : Type} (u : Table K U) (f : U → W) (p : K × W),
      p ∈ u.entries.map (fun r => (r.1, f r.2)) ↔ (u.lookup p.1).map f = some p.2 := by
    intro U u f p
    rw [List.mem_map, Option.map_eq_some_iff]
    constructor
    · rintro ⟨r, hr, rfl⟩
      exact ⟨r.2, lookup_eq_some.mpr hr, rfl⟩
    · rintro ⟨v, hv, hp⟩
      exact ⟨⟨p.1, v⟩, lookup_eq_some.mp hv, Prod.ext rfl hp⟩
  refine (List.perm_ext_iff_of_nodup (hnodup t g) (hnodup t' g')).mpr fun p => ?_
  rw [hmem, hmem, h]

/-- A list of inserts in which every key has one value only. -/
theorem lookup_foldl_insert {f : K → Option V} {k : K} : ∀ {l : List (K × V)} {t : Table K V},
    (∀ p ∈ l, f p.1 = some p.2) → (l.foldl (fun t p => t.insert p.1 p.2) t).lookup k =
      if k ∈ l.map Prod.fst then f k else t.lookup k
  | [], _, _ => by simp
  | p :: l, t, h => by
    rw [List.foldl_cons, lookup_foldl_insert fun q hq => h q (List.mem_cons_of_mem _ hq),
      lookup_insert_ite]
    by_cases hp : k = p.1
    · subst hp
      simp [h p (List.mem_cons_self ..)]
    · have hmem : k ∈ (p :: l).map Prod.fst ↔ k ∈ l.map Prod.fst := by
        rw [List.map_cons, List.mem_cons, or_iff_right hp]
      simp only [hmem, if_neg hp]

end Table

/-- The order in which a hash table or a hash set is walked: any permutation of its entries. -/
structure IterOrder (α : Type) where
  perm : List α → List α
  isPerm : ∀ l, (perm l).Perm l

namespace IterOrder

variable {α : Type}

/-- The order of the entries themselves. -/
def asStored : IterOrder α := ⟨id, fun _ => .refl _⟩

theorem mem_perm (o : IterOrder α) {l : List α} {a : α} : a ∈ o.perm l ↔ a ∈ l :=
  (o.isPerm l).mem_iff

theorem find?_some (o : IterOrder α) {l : List α} {p : α → Bool} {a : α}
    (h : (o.perm l).find? p = some a) : a ∈ l ∧ p a :=
  ⟨o.mem_perm.mp (List.mem_of_find?_eq_some h), List.find?_some h⟩

theorem find?_isSome (o : IterOrder α) {l : List α} {p : α → Bool} {a : α} (ha : a ∈ l)
    (hp : p a) : ((o.perm l).find? p).isSome :=
  List.find?_isSome.mpr ⟨a, o.mem_perm.mpr ha, hp⟩

end IterOrder

/-- A table of at most `cap` keys. -/
structure BoundedTable (cap : ℕ) (K V : Type) where
  rows : Table K V
  size_le : rows.keys.length ≤ cap

namespace BoundedTable

variable {cap : ℕ} {K V : Type}

def empty : BoundedTable cap K V := ⟨∅, Nat.zero_le _⟩

variable [DecidableEq K]

def lookup (t : BoundedTable cap K V) (k : K) : Option V := t.rows.lookup k

theorem length_keys_insert_le {t : Table K V} {k : K} {v : V} {n : ℕ}
    (ht : t.keys.length ≤ n) (h : (t.lookup k).isSome ∨ t.keys.length < n) :
    (t.insert k v).keys.length ≤ n := by
  rw [Table.insert, AList.keys_insert, List.length_cons]
  rcases h with h | h
  · have hm : k ∈ t.keys := AList.mem_keys.mp (Table.lookup_isSome.mp h)
    have := List.length_erase_of_mem hm
    have := List.length_pos_of_mem hm
    omega
  · have := List.length_erase_le (l := t.keys) (a := k)
    omega

/-- Insert or overwrite; `none` when the key is new and the table is full. -/
def insert (t : BoundedTable cap K V) (k : K) (v : V) : Option (BoundedTable cap K V) :=
  if h : (t.rows.lookup k).isSome ∨ t.rows.keys.length < cap then
    some ⟨t.rows.insert k v, length_keys_insert_le t.size_le h⟩
  else none

def erase (t : BoundedTable cap K V) (k : K) : BoundedTable cap K V :=
  ⟨t.rows.erase k, by
    rw [Table.erase, AList.keys_erase]
    exact Nat.le_trans List.length_erase_le t.size_le⟩

/-- Rewrite the value of a key that is there. -/
def modify (t : BoundedTable cap K V) (k : K) (f : V → V) : BoundedTable cap K V :=
  match h : t.rows.lookup k with
  | some v => ⟨t.rows.insert k (f v), length_keys_insert_le t.size_le (.inl (by rw [h]; rfl))⟩
  | none => t

/-- Erase a list of keys, one after the other. -/
def eraseAll (t : BoundedTable cap K V) (ks : List K) : BoundedTable cap K V :=
  ks.foldl erase t

theorem lookup_of_insert {t t' : BoundedTable cap K V} {k : K} {v : V} (h : t.insert k v = some t')
    (j : K) : t'.lookup j = if j = k then some v else t.lookup j := by
  unfold insert at h
  split_ifs at h
  obtain rfl := Option.some.inj h
  exact Table.lookup_insert_ite t.rows k j v

theorem lookup_erase_ite (t : BoundedTable cap K V) (k j : K) :
    (t.erase k).lookup j = if j = k then none else t.lookup j :=
  Table.lookup_erase_ite t.rows k j

theorem lookup_modify (t : BoundedTable cap K V) (k j : K) (f : V → V) :
    (t.modify k f).lookup j = if j = k then (t.lookup j).map f else t.lookup j := by
  unfold modify lookup
  split
  · next v hv =>
    rw [Table.lookup_insert_ite]
    split_ifs with h
    · subst h; rw [hv]; rfl
    · rfl
  · next hv =>
    split_ifs with h
    · subst h; rw [hv]; rfl
    · rfl

theorem lookup_eraseAll (ks : List K) : ∀ (t : BoundedTable cap K V) (j : K),
    (t.eraseAll ks).lookup j = if j ∈ ks then none else t.lookup j := by
  induction ks with
  | nil => intro t j; simp [eraseAll]
  | cons k ks ih =>
    intro t j
    have hstep : t.eraseAll (k :: ks) = (t.erase k).eraseAll ks := rfl
    rw [hstep, ih, lookup_erase_ite]
    by_cases hj : j = k <;> simp [hj]

/-- Erasing a list of keys clears a set of keys exactly when the list has all of them that occur. -/
theorem eraseAll_eq_none_iff {t : BoundedTable cap K V} {ks : List K} {p : K → Prop} :
    (∀ k, p k → (t.eraseAll ks).lookup k = none) ↔
      ∀ x ∈ t.rows.entries, p x.1 → x.1 ∈ ks := by
  constructor
  · intro h x hx hp
    have hnone := h x.1 hp
    rw [lookup_eraseAll] at hnone
    by_contra hmem
    rw [if_neg hmem] at hnone
    cases (Table.lookup_eq_some.mpr hx).symm.trans hnone
  · intro h k hp
    rw [lookup_eraseAll]
    split_ifs with hmem
    · rfl
    · cases hk : t.lookup k with
      | none => rfl
      | some v => exact absurd (h ⟨k, v⟩ (Table.lookup_eq_some.mp hk) hp) hmem

/-- Overwriting a key that is there cannot fail. -/
theorem insert_isSome_of_lookup {t : BoundedTable cap K V} {k : K} {v w : V}
    (h : t.lookup k = some w) : (t.insert k v).isSome := by
  unfold insert
  have h' : (t.rows.lookup k).isSome := by
    change (t.lookup k).isSome
    rw [h]; rfl
  rw [dif_pos (.inl h')]
  rfl

end BoundedTable

/-! ### Inserting -/

section Put

variable {K V : Type} [DecidableEq K]

/-- One insert into a finite map given by its lookups. -/
def put (f : K → Option V) (p : K × V) : K → Option V := fun k => if k = p.1 then some p.2 else f k

theorem Table.lookup_insert_eq (t : Table K V) (k : K) (v : V) :
    (t.insert k v).lookup = put t.lookup (k, v) :=
  funext fun j => Table.lookup_insert_ite t k j v

theorem BoundedTable.lookup_insert_eq {cap : ℕ} {t t' : BoundedTable cap K V} {k : K} {v : V}
    (h : t.insert k v = some t') : t'.lookup = put t.lookup (k, v) :=
  funext fun j => BoundedTable.lookup_of_insert h j

theorem Table.lookup_foldl_insert_eq (ps : List (K × V)) (t : Table K V) :
    (ps.foldl (fun t p => t.insert p.1 p.2) t).lookup = ps.foldl put t.lookup := by
  induction ps generalizing t with
  | nil => rfl
  | cons p ps ih => rw [List.foldl_cons, List.foldl_cons, ih, Table.lookup_insert_eq]

/-- The last insert of each key. -/
def lastPut (ps : List (K × V)) : K → Option V := ps.foldl put fun _ => none

/-- Where a list of inserts has one for a key, the last one counts. -/
theorem foldl_put_eq (ps : List (K × V)) (f : K → Option V) (k : K) :
    ps.foldl put f k = (lastPut ps k).or (f k) := by
  induction ps generalizing f with
  | nil => rfl
  | cons p ps ih =>
    rw [lastPut, List.foldl_cons, List.foldl_cons, ih, ih, Option.or_assoc]
    congr 1
    unfold put
    split_ifs <;> rfl

theorem lastPut_cons (p : K × V) (ps : List (K × V)) (k : K) :
    lastPut (p :: ps) k = (lastPut ps k).or (if k = p.1 then some p.2 else none) := by
  rw [lastPut, List.foldl_cons, foldl_put_eq]
  rfl

theorem lastPut_map {W : Type} (g : V → W) (ps : List (K × V)) (k : K) :
    lastPut (ps.map fun p => (p.1, g p.2)) k = (lastPut ps k).map g := by
  induction ps with
  | nil => rfl
  | cons p ps ih =>
    rw [List.map_cons, lastPut_cons, lastPut_cons, ih]
    cases lastPut ps k with
    | some v => rfl
    | none => split_ifs <;> rfl

theorem mem_of_lastPut {ps : List (K × V)} {k : K} {v : V} (h : lastPut ps k = some v) :
    (k, v) ∈ ps := by
  induction ps with
  | nil => cases h
  | cons p ps ih =>
    rw [lastPut_cons] at h
    cases hlast : lastPut ps k with
    | some v' =>
      rw [hlast] at h
      exact List.mem_cons_of_mem _ (ih (hlast.trans h))
    | none =>
      rw [hlast, Option.none_or] at h
      split_ifs at h with hk
      rw [hk, ← Option.some.inj h]
      exact List.mem_cons_self ..

/-- A list of inserts leaves a key alone that it does not name. -/
theorem foldl_put_of_notMem {ps : List (K × V)} {k : K} (h : k ∉ ps.map Prod.fst)
    (f : K → Option V) : ps.foldl put f k = f k := by
  induction ps generalizing f with
  | nil => rfl
  | cons p ps ih =>
    rw [List.map_cons, List.mem_cons, not_or] at h
    rw [List.foldl_cons, ih h.2, put, if_neg h.1]

/-- A key that it names has the value of one of its inserts. -/
theorem foldl_put_of_mem {ps : List (K × V)} {k : K} (h : k ∈ ps.map Prod.fst)
    (f : K → Option V) : ∃ v, (k, v) ∈ ps ∧ ps.foldl put f k = some v := by
  induction ps generalizing f with
  | nil => cases h
  | cons p ps ih =>
    by_cases hps : k ∈ ps.map Prod.fst
    · obtain ⟨v, hv, heq⟩ := ih hps (put f p)
      exact ⟨v, List.mem_cons_of_mem _ hv, heq⟩
    · obtain rfl : k = p.1 := by
        rw [List.map_cons, List.mem_cons] at h
        exact h.resolve_right hps
      refine ⟨p.2, List.mem_cons_self .., ?_⟩
      rw [List.foldl_cons, foldl_put_of_notMem hps, put, if_pos rfl]

theorem lastPut_eq_none_iff {ps : List (K × V)} {k : K} :
    lastPut ps k = none ↔ k ∉ ps.map Prod.fst := by
  constructor
  · intro h hk
    obtain ⟨v, -, hv⟩ := foldl_put_of_mem hk fun _ => none
    cases h.symm.trans hv
  · exact fun h => foldl_put_of_notMem h _

/-- Of inserts that all have one key, the last one counts. -/
theorem lastPut_const (k : K) (vs : List V) : lastPut (vs.map fun v => (k, v)) k = vs.getLast? := by
  induction vs with
  | nil => rfl
  | cons v vs ih =>
    rw [List.map_cons, lastPut_cons, ih, if_pos rfl, List.getLast?_cons]
    cases vs.getLast? <;> rfl

/-- Of inserts made from a list of entries, the last entry with the key counts. -/
theorem lastPut_map_entries {A : Type} (key : A → K) (val : A → V) (as : List A) (k : K) :
    lastPut (as.map fun a => (key a, val a)) k =
      ((as.filter fun a => key a = k).getLast?).map val := by
  induction as with
  | nil => rfl
  | cons a as ih =>
    rw [List.map_cons, lastPut_cons, ih, List.filter_cons]
    by_cases hk : key a = k
    · rw [if_pos hk.symm, if_pos (by simpa using hk), List.getLast?_cons]
      cases (as.filter fun a => key a = k).getLast? <;> rfl
    · rw [if_neg (Ne.symm hk), if_neg (by simpa using hk), Option.or_none]

/-- Where no insert has a key of a kind, a key of that kind has none. -/
theorem lastPut_of_filter_none {ps : List (K × V)} {q : K → Bool}
    (h : (ps.filter fun p => q p.1).getLast? = none) {k : K} (hk : q k = true) :
    lastPut ps k = none := by
  rw [List.getLast?_eq_none_iff, List.filter_eq_nil_iff] at h
  refine lastPut_eq_none_iff.mpr fun hmem => ?_
  obtain ⟨p, hp, rfl⟩ := List.mem_map.mp hmem
  exact h p hp hk

/-- The last insert with a key of a kind is the last one with its own key. -/
theorem lastPut_of_filter_some {ps : List (K × V)} {q : K → Bool} {k : K} {v : V}
    (h : (ps.filter fun p => q p.1).getLast? = some (k, v)) : lastPut ps k = some v := by
  induction ps with
  | nil => cases h
  | cons p ps ih =>
    have hk : q k = true := (List.mem_filter.mp (List.mem_of_getLast? h)).2
    rw [lastPut_cons]
    rw [List.filter_cons] at h
    split_ifs at h
    · rw [List.getLast?_cons] at h
      cases hlast : (ps.filter fun p => q p.1).getLast? with
      | none =>
        rw [hlast] at h
        obtain rfl : p = (k, v) := Option.some.inj h
        rw [lastPut_of_filter_none hlast hk, if_pos rfl]
        rfl
      | some p' =>
        rw [hlast] at h
        obtain rfl : p' = (k, v) := Option.some.inj h
        rw [ih hlast]
        rfl
    · rw [ih h]
      rfl

/-- Inserts made from a list: the value of a key comes from an entry that makes that key. -/
theorem foldl_put_map_of_mem {α : Type} (key : α → K) (val : α → V) {l : List α} {a : α}
    (h : a ∈ l) (f : K → Option V) : ∃ b ∈ l, key b = key a ∧
      (l.map fun a => (key a, val a)).foldl put f (key a) = some (val b) := by
  have hmem : key a ∈ (l.map fun a => (key a, val a)).map Prod.fst := by
    rw [List.map_map]
    exact List.mem_map_of_mem h
  obtain ⟨v, hv, heq⟩ := foldl_put_of_mem hmem f
  obtain ⟨b, hb, hpair⟩ := List.mem_map.mp hv
  obtain ⟨hkey, rfl⟩ := Prod.mk.inj hpair
  exact ⟨b, hb, hkey, heq⟩

/-- Where entries that make one key have one value, that is the value of the key. -/
theorem foldl_put_map {α : Type} (key : α → K) (val : α → V) {l : List α} {a : α} (h : a ∈ l)
    (huniq : ∀ b ∈ l, key b = key a → val b = val a) (f : K → Option V) :
    (l.map fun a => (key a, val a)).foldl put f (key a) = some (val a) := by
  obtain ⟨b, hb, hkey, heq⟩ := foldl_put_map_of_mem key val h f
  rw [heq, huniq b hb hkey]

end Put

/-! ### Overwriting -/

section Overwrite

variable {K V P : Type} [DecidableEq K] {set : P → V → V}

/-- One write to a finite map given by its lookups: a value that is there is changed. -/
def overwrite (set : P → V → V) (f : K → Option V) (u : K × P) : K → Option V :=
  fun k => if k = u.1 then (f k).map (set u.2) else f k

theorem Table.lookup_modify_eq (set : P → V → V) (t : Table K V) (k : K) (p : P) :
    (t.modify k (set p)).lookup = overwrite set t.lookup (k, p) :=
  funext fun j => Table.lookup_modify t k j (set p)

theorem BoundedTable.lookup_modify_eq {cap : ℕ} (set : P → V → V) (t : BoundedTable cap K V)
    (k : K) (p : P) :
    (t.modify k (set p)).lookup = overwrite set t.lookup (k, p) :=
  funext fun j => BoundedTable.lookup_modify t k j (set p)

/-- When a write hides the one before it, a list of writes comes down to the last one for each
key. -/
theorem foldl_overwrite_eq (hset : ∀ p q v, set p (set q v) = set p v) (us : List (K × P))
    (f : K → Option V) (k : K) : us.foldl (overwrite set) f k =
      (f k).map fun v => ((lastPut us k).map (set · v)).getD v := by
  induction us generalizing f with
  | nil => simp [lastPut]
  | cons u us ih =>
    rw [List.foldl_cons, ih, lastPut_cons, overwrite]
    split_ifs
    · rw [Option.map_map]
      cases lastPut us k with
      | none => rfl
      | some p => simp [Function.comp_def, hset]
    · rw [Option.or_none]

/-- A list of writes leaves a key alone that it does not name. -/
theorem foldl_overwrite_of_notMem {us : List (K × P)} {k : K} (h : k ∉ us.map Prod.fst)
    (f : K → Option V) : us.foldl (overwrite set) f k = f k := by
  induction us generalizing f with
  | nil => rfl
  | cons u us ih =>
    rw [List.map_cons, List.mem_cons, not_or] at h
    rw [List.foldl_cons, ih h.2, overwrite, if_neg h.1]

/-- Where no key is named twice, a key that is named is written once. -/
theorem foldl_overwrite_of_mem {us : List (K × P)} (hnodup : (us.map Prod.fst).Nodup) {k : K}
    {p : P} (h : (k, p) ∈ us) (f : K → Option V) :
    us.foldl (overwrite set) f k = (f k).map (set p) := by
  induction us generalizing f with
  | nil => cases h
  | cons u us ih =>
    rw [List.map_cons, List.nodup_cons] at hnodup
    rw [List.foldl_cons]
    rcases List.mem_cons.mp h with rfl | h
    · rw [foldl_overwrite_of_notMem hnodup.1, overwrite, if_pos rfl]
    · have hne : k ≠ u.1 := fun heq => hnodup.1 (heq ▸ List.mem_map_of_mem h)
      rw [ih hnodup.2 h, overwrite, if_neg hne]

/-- Writes that may be left out: where no key is named twice, a key is written by its own, if that
is made. -/
theorem foldl_overwrite_filterMap {A : Type} {key : A → K} {val : A → Option P} {as : List A}
    (hnodup : (as.map key).Nodup) {a : A} (h : a ∈ as) (f : K → Option V) :
    (as.filterMap fun a => (val a).map fun p => (key a, p)).foldl (overwrite set) f (key a) =
      (f (key a)).map fun v => ((val a).map (set · v)).getD v := by
  induction as generalizing f with
  | nil => cases h
  | cons b as ih =>
    rw [List.map_cons, List.nodup_cons] at hnodup
    rcases List.mem_cons.mp h with rfl | h
    · have hrest : key a ∉ (as.filterMap fun a => (val a).map fun p => (key a, p)).map
          Prod.fst := by
        intro hmem
        obtain ⟨u, hu, heq⟩ := List.mem_map.mp hmem
        obtain ⟨c, hc, hval⟩ := List.mem_filterMap.mp hu
        obtain ⟨p, -, rfl⟩ := Option.map_eq_some_iff.mp hval
        exact hnodup.1 (heq ▸ List.mem_map_of_mem hc)
      cases hval : val a with
      | none =>
        rw [List.filterMap_cons_none (by rw [hval]; rfl), foldl_overwrite_of_notMem hrest]
        simp
      | some p =>
        rw [List.filterMap_cons_some (by rw [hval]; rfl), List.foldl_cons,
          foldl_overwrite_of_notMem hrest, overwrite, if_pos rfl]
        rfl
    · have hne : key a ≠ key b := fun heq => hnodup.1 (heq ▸ List.mem_map_of_mem h)
      cases hval : val b with
      | none => rw [List.filterMap_cons_none (by rw [hval]; rfl), ih hnodup.2 h]
      | some p =>
        rw [List.filterMap_cons_some (by rw [hval]; rfl), List.foldl_cons, ih hnodup.2 h,
          overwrite, if_neg hne]

/-- Such a list of writes, made twice, is as good as made once. -/
theorem foldl_overwrite_twice (hset : ∀ p q v, set p (set q v) = set p v) (us : List (K × P))
    (f : K → Option V) :
    us.foldl (overwrite set) (us.foldl (overwrite set) f) = us.foldl (overwrite set) f := by
  funext k
  rw [foldl_overwrite_eq hset, foldl_overwrite_eq hset, Option.map_map]
  congr 1
  funext v
  cases lastPut us k with
  | none => rfl
  | some p => simp [hset]

end Overwrite

end Lib
