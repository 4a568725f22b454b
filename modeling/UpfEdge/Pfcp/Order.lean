import UpfEdge.Lib.Batch
import UpfEdge.Pfcp.Roundtrip

/-!
# The order of the IEs in a group

The grouped parsers of `ie.rs` are loops over the sub-IEs of a value, in which each arm assigns to a
field.  A `Description` says of such a loop which types it knows and where its arms write; one of
the types may be that of a group in the group, whose parser goes on with the same value under
construction.  Arms of different types write to different fields, so sub-IEs of different types may
stand in any order, and sub-IEs of other types anywhere (`Description.parse_rearranged`).

An SDF Filter is taken beside the PDI as well as inside it, into the same field.  This is the one
place where the types inside a group matter to the types beside it.
-/

namespace UpfEdge.Pfcp

open Lib

/-! ### Lists of sub-IEs -/

/-- The types a grouped parser knows; with one of them comes the group that holds further IEs, of
which its parser knows other types. -/
structure Grammar where
  known : List UInt16
  group : Option (UInt16 × List UInt16)
  group_mem : ∀ p ∈ group, p.1 ∈ known

/-- A well-formed sub-IE of a type that is not known. -/
def Unknown (known : List UInt16) (ie : UInt16 × Bytes) : Prop :=
  ie.1 ∉ known ∧ ie.2.length ≤ 65535

/-- The same unknown sub-IE with something else in it. -/
def SameUnknown (known : List UInt16) (ie ie' : UInt16 × Bytes) : Prop :=
  ie'.1 = ie.1 ∧ Unknown known ie'

/-- The sub-IEs in another order, with unknown ones among them. -/
def Rearranged (known : List UInt16) : List (UInt16 × Bytes) → List (UInt16 × Bytes) → Prop :=
  Rearranges (SameUnknown known) (Unknown known)

namespace Grammar

variable (g : Grammar)

def IsGroup (ie : UInt16 × Bytes) : Prop := g.group.map Prod.fst = some ie.1

instance (ie : UInt16 × Bytes) : Decidable (g.IsGroup ie) := inferInstanceAs (Decidable (_ = _))

/-- The value of a well-formed sub-IE fits its length field, and that of a group is a list of
IEs. -/
structure WellFormed (ie : UInt16 × Bytes) : Prop where
  fits : ie.2.length ≤ 65535
  nested : g.IsGroup ie → ∃ inner : List (UInt16 × Bytes), ie.2 = inner.flatMap ieBytes

/-- The type of a sub-IE and, for a group, the types inside it. -/
def typesOf (ie : UInt16 × Bytes) : List UInt16 :=
  ie.1 :: if g.IsGroup ie then (iterIes ie.2).map RawIE.ieType else []

/-- Two sub-IEs that mean the same: unknown ones, or groups with the same inside in another order,
with unknown sub-IEs among it. -/
inductive Same : UInt16 × Bytes → UInt16 × Bytes → Prop
  | unknown {ie ie' : UInt16 × Bytes} (h : SameUnknown g.known ie ie') : Same ie ie'
  | nested {t : UInt16} {known : List UInt16} {inner inner' : List (UInt16 × Bytes)}
    (hg : g.group = some (t, known)) (h : Rearranged known inner inner')
    (hfits : (inner'.flatMap ieBytes).length ≤ 65535) :
    Same (t, inner.flatMap ieBytes) (t, inner'.flatMap ieBytes)

/-- The sub-IEs in another order, at both levels, with unknown ones among them. -/
def Rearranged : List (UInt16 × Bytes) → List (UInt16 × Bytes) → Prop :=
  Rearranges g.Same (Unknown g.known)

end Grammar

theorem length_le_of_mem {ies : List (UInt16 × Bytes)} {n : ℕ}
    (h : (ies.flatMap ieBytes).length ≤ n) : ∀ ie ∈ ies, ie.2.length ≤ n := by
  intro ie hie
  obtain ⟨before, after, rfl⟩ := List.append_of_mem hie
  rw [List.flatMap_append, List.flatMap_cons, List.length_append, List.length_append, ieBytes,
    List.length_append] at h
  omega

theorem map_fst_iterIes {ies : List (UInt16 × Bytes)} (h : (ies.flatMap ieBytes).length ≤ 65535) :
    (iterIes (ies.flatMap ieBytes)).map RawIE.ieType = ies.map Prod.fst := by
  have hread := iterIes_flatMap fun ie hie => Nat.lt_succ_of_le (length_le_of_mem h ie hie)
  conv_rhs => rw [← hread, List.map_map]
  rfl

/-- A list of IEs is told by its octets. -/
theorem flatMap_ieBytes_inj {ies ies' : List (UInt16 × Bytes)}
    (h : (ies.flatMap ieBytes).length ≤ 65535) (heq : ies.flatMap ieBytes = ies'.flatMap ieBytes) :
    ies = ies' := by
  have hread := iterIes_flatMap fun ie hie => Nat.lt_succ_of_le (length_le_of_mem h ie hie)
  rw [heq] at h
  have hread' := iterIes_flatMap fun ie hie => Nat.lt_succ_of_le (length_le_of_mem h ie hie)
  rw [← hread, ← hread', heq]

/-! ### Steps of a loop -/

/-- A step of a grouped parser at a type and a value, without the reason of a refusal. -/
def optStep {σ : Type} (step : σ → RawIE → Except PfcpError σ) (s : σ) (ie : UInt16 × Bytes) :
    Option σ :=
  (onPair step s ie).toOption

theorem toOption_foldlM {ε α σ : Type} (f : σ → α → Except ε σ) (xs : List α) (s : σ) :
    (xs.foldlM f s).toOption = xs.foldlM (fun s a => (f s a).toOption) s := by
  induction xs generalizing s with
  | nil => rfl
  | cons a xs ih =>
    rw [List.foldlM_cons, foldlM_cons_eq]
    cases f s a with
    | error e => rfl
    | ok s' => exact ih s'

/-- A parser on the octets of a list of IEs. -/
theorem toOption_foldlM_iterIes {σ : Type} {step : σ → RawIE → Except PfcpError σ}
    (hpair : ∀ s t l v sub, step s (.mk t l v sub) = step s (.mk t 0 v []))
    {ies : List (UInt16 × Bytes)} (h : ∀ ie ∈ ies, ie.2.length ≤ 65535) (s : σ) :
    ((iterIes (ies.flatMap ieBytes)).foldlM step s).toOption = ies.foldlM (optStep step) s := by
  rw [foldlM_iterIes hpair (fun ie hie => Nat.lt_succ_of_le (h ie hie)), toOption_foldlM]
  rfl

/-- An arm that always succeeds. -/
theorem writing_of_eq {σ : Type} {step : σ → RawIE → Except PfcpError σ}
    {writes : UInt16 → (σ → σ) → Prop} {t : UInt16} {v : Bytes} {w : σ → σ} (hw : writes t w)
    (h : ∀ s, step s (.mk t 0 v []) = .ok (w s)) :
    Writing (optStep step) writes (fun ie => [ie.1]) (t, v) := by
  refine ⟨some w, fun s => ?_, ?_⟩
  · rw [optStep, onPair, h]
    rfl
  · rintro _ ⟨⟩
    exact .write hw (List.mem_singleton_self t)

/-- An arm that parses its value and stores what it gets. -/
theorem writing_of_parse {σ β : Type} {step : σ → RawIE → Except PfcpError σ}
    {writes : UInt16 → (σ → σ) → Prop} {t : UInt16} {v : Bytes} {w : β → σ → σ}
    (parse : Bytes → Except PfcpError β) (hw : ∀ x, writes t (w x))
    (h : ∀ s, step s (.mk t 0 v []) = parse v >>= fun x => pure (w x s)) :
    Writing (optStep step) writes (fun ie => [ie.1]) (t, v) := by
  refine ⟨(parse v).toOption.map w, fun s => ?_, ?_⟩
  · rw [optStep, onPair, h]
    cases parse v <;> rfl
  · intro u hu
    obtain ⟨x, -, rfl⟩ := Option.map_eq_some_iff.mp hu
    exact .write (hw x) (List.mem_singleton_self t)

/-- An unknown type. -/
theorem writing_of_skip {σ : Type} {step : σ → RawIE → Except PfcpError σ}
    {writes : UInt16 → (σ → σ) → Prop} {ie : UInt16 × Bytes}
    (h : ∀ s, optStep step s ie = some s) :
    Writing (optStep step) writes (fun ie => [ie.1]) ie := by
  refine ⟨some id, h, ?_⟩
  rintro _ ⟨⟩
  exact .id

/-- A grouped parser: what it knows, the steps of its loop and of the loop inside, and where their
arms write. -/
structure Description (σ : Type) where
  grammar : Grammar
  step : σ → RawIE → Except PfcpError σ
  innerStep : σ → RawIE → Except PfcpError σ
  writes : UInt16 → (σ → σ) → Prop
  writes_commute : ∀ {t t' u w}, writes t u → writes t' w → t ≠ t' → Function.Commute u w
  step_pair : ∀ s t l v sub, step s (.mk t l v sub) = step s (.mk t 0 v [])
  innerStep_pair : ∀ s t l v sub, innerStep s (.mk t l v sub) = innerStep s (.mk t 0 v [])
  step_unknown : ∀ s ie, ie.1 ∉ grammar.known → optStep step s ie = some s
  innerStep_unknown : ∀ t known, grammar.group = some (t, known) →
    ∀ s ie, ie.1 ∉ known → optStep innerStep s ie = some s
  step_leaf : ∀ ie, ¬ grammar.IsGroup ie → Writing (optStep step) writes (fun ie => [ie.1]) ie
  step_group : ∀ s ie, grammar.IsGroup ie → onPair step s ie = (iterIes ie.2).foldlM innerStep s
  innerStep_leaf : ∀ ie, Writing (optStep innerStep) writes (fun ie => [ie.1]) ie

namespace Description

variable {σ : Type} (d : Description σ)

/-- The step at a group is the loop over what is in it. -/
theorem optStep_group {ie : UInt16 × Bytes} (hg : d.grammar.IsGroup ie)
    {inner : List (UInt16 × Bytes)} (hv : ie.2 = inner.flatMap ieBytes)
    (hfits : ie.2.length ≤ 65535) (s : σ) :
    optStep d.step s ie = inner.foldlM (optStep d.innerStep) s := by
  rw [hv] at hfits
  rw [optStep, d.step_group s ie hg, hv,
    toOption_foldlM_iterIes d.innerStep_pair (length_le_of_mem hfits)]

/-- A sub-IE writes under its type and, for a group, under the types in it. -/
theorem writing {ie : UInt16 × Bytes} (hwf : d.grammar.WellFormed ie) :
    Writing (optStep d.step) d.writes d.grammar.typesOf ie := by
  by_cases hg : d.grammar.IsGroup ie
  · obtain ⟨inner, hv⟩ := hwf.nested hg
    obtain ⟨u, hu, hcu⟩ := foldlM_writing fun ie' (_ : ie' ∈ inner) => d.innerStep_leaf ie'
    refine ⟨u, fun s => (d.optStep_group hg hv hwf.fits s).trans (hu s), fun u' hu' => ?_⟩
    have hfits := hwf.fits
    rw [hv] at hfits
    refine (hcu u' hu').mono fun t ht => ?_
    rw [Grammar.typesOf, if_pos hg, hv, map_fst_iterIes hfits, List.map_eq_flatMap]
    exact List.mem_cons_of_mem _ ht
  · obtain ⟨u, hu, hcu⟩ := d.step_leaf ie hg
    refine ⟨u, hu, fun u' hu' => (hcu u' hu').mono fun t ht => ?_⟩
    rw [List.mem_singleton.mp ht]
    exact List.mem_cons_self ..

/-- What the meaning of a sub-IE rests on: a group is well-formed, and its sub-IEs commute. -/
def Sound (ie : UInt16 × Bytes) : Prop :=
  d.grammar.WellFormed ie ∧ (d.grammar.IsGroup ie → ∀ inner : List (UInt16 × Bytes),
    ie.2 = inner.flatMap ieBytes → ∀ a ∈ inner, ∀ b ∈ inner, Commutes (optStep d.innerStep) a b)

theorem sound_of_distinct {ie : UInt16 × Bytes} (hwf : d.grammar.WellFormed ie)
    (hd : (d.grammar.typesOf ie).Nodup) : d.Sound ie := by
  refine ⟨hwf, fun hg inner hv => ?_⟩
  have hfits := hwf.fits
  rw [hv] at hfits
  rw [Grammar.typesOf, if_pos hg, hv, map_fst_iterIes hfits, List.map_eq_flatMap] at hd
  exact commutes_of_writing (fun ie' _ => d.innerStep_leaf ie') d.writes_commute
    (List.nodup_cons.mp hd).2

theorem sound_unknown {ie : UInt16 × Bytes} (h : Unknown d.grammar.known ie) : d.Sound ie := by
  have hg : ¬ d.grammar.IsGroup ie := by
    intro hg
    obtain ⟨p, hp, hpt⟩ := Option.map_eq_some_iff.mp hg
    exact h.1 (hpt ▸ d.grammar.group_mem p hp)
  exact ⟨⟨h.2, fun hg' => absurd hg' hg⟩, fun hg' => absurd hg' hg⟩

/-- The loop inside a group, over sub-IEs in another order. -/
theorem inner_rearranged {t : UInt16} {known : List UInt16} {inner inner' : List (UInt16 × Bytes)}
    (hg : d.grammar.group = some (t, known)) (h : Rearranged known inner inner')
    (hcomm : ∀ a ∈ inner, ∀ b ∈ inner, Commutes (optStep d.innerStep) a b) :
    (∀ a ∈ inner', ∀ b ∈ inner', Commutes (optStep d.innerStep) a b) ∧
      ∀ s, inner'.foldlM (optStep d.innerStep) s = inner.foldlM (optStep d.innerStep) s := by
  have hskip : ∀ ie, Unknown known ie → ∀ s, optStep d.innerStep s ie = some s :=
    fun ie hie s => d.innerStep_unknown t known hg s ie hie.1
  have hsame : ∀ ie ie', SameUnknown known ie ie' →
      ∀ s, optStep d.innerStep s ie' = optStep d.innerStep s ie := by
    intro ie ie' hie s
    have hno : ie.1 ∉ known := by
      rw [← hie.1]
      exact hie.2.1
    rw [hskip ie' hie.2, d.innerStep_unknown t known hg s ie hno]
  exact (foldlM_of_rearranges (P := fun _ => True) (fun ie hie => ⟨trivial, hskip ie hie⟩)
    (fun ie ie' _ hie => ⟨trivial, hsame ie ie' hie⟩) h (fun _ _ => trivial) hcomm).2

/-- Sub-IEs that mean the same do the same. -/
theorem optStep_same {ie ie' : UInt16 × Bytes} (hs : d.Sound ie) (h : d.grammar.Same ie ie') :
    d.Sound ie' ∧ ∀ s, optStep d.step s ie' = optStep d.step s ie := by
  cases h with
  | unknown h =>
    have hno : ie.1 ∉ d.grammar.known := by
      rw [← h.1]
      exact h.2.1
    refine ⟨d.sound_unknown h.2, fun s => ?_⟩
    rw [d.step_unknown s ie' h.2.1, d.step_unknown s ie hno]
  | @nested t known inner inner' hg h hfits =>
    have hgroup : ∀ v : Bytes, d.grammar.IsGroup (t, v) := by
      intro v
      rw [Grammar.IsGroup, hg]
      rfl
    obtain ⟨hcomm, hfold⟩ := d.inner_rearranged hg h (hs.2 (hgroup _) inner rfl)
    refine ⟨⟨⟨hfits, fun _ => ⟨inner', rfl⟩⟩, ?_⟩, ?_⟩
    · intro _ inner₂ hv
      rw [← flatMap_ieBytes_inj hfits hv]
      exact hcomm
    · intro s
      calc optStep d.step s (t, inner'.flatMap ieBytes)
          = inner'.foldlM (optStep d.innerStep) s := d.optStep_group (hgroup _) rfl hfits s
        _ = inner.foldlM (optStep d.innerStep) s := hfold s
        _ = optStep d.step s (t, inner.flatMap ieBytes) :=
          (d.optStep_group (hgroup _) rfl hs.1.fits s).symm

/-- **Order and unknown sub-IEs make no difference** to a grouped parser, where the types are
distinct, those in the group included. -/
theorem parse_rearranged {xs ys : List (UInt16 × Bytes)}
    (hwf : ∀ ie ∈ xs, d.grammar.WellFormed ie) (hd : (xs.flatMap d.grammar.typesOf).Nodup)
    (h : d.grammar.Rearranged xs ys) (s : σ) :
    ((iterIes (ys.flatMap ieBytes)).foldlM d.step s).toOption =
      ((iterIes (xs.flatMap ieBytes)).foldlM d.step s).toOption := by
  have hsound : ∀ ie ∈ xs, d.Sound ie := fun ie hie =>
    d.sound_of_distinct (hwf ie hie) ((List.nodup_flatMap.mp hd).1 ie hie)
  obtain ⟨hsound', -, hfold⟩ := foldlM_of_rearranges (f := optStep d.step)
    (fun ie hie => ⟨d.sound_unknown hie, fun s => d.step_unknown s ie hie.1⟩)
    (fun ie ie' hie hsame => d.optStep_same hie hsame) h hsound
    (commutes_of_writing (fun ie hie => d.writing (hwf ie hie)) d.writes_commute hd)
  rw [toOption_foldlM_iterIes d.step_pair fun ie hie => (hsound' ie hie).1.fits,
    toOption_foldlM_iterIes d.step_pair fun ie hie => (hwf ie hie).fits, hfold]

end Description

/-! ### Create URR -/

/-- The arms of `parse_create_urr`. -/
inductive UrrWrites : UInt16 → (ParsedURR → ParsedURR) → Prop
  | urrId (x : Option UInt32) :
    UrrWrites pfcpIeUrrId fun urr => { urr with urrId := x.getD urr.urrId }
  | measurementMethod (x : Option UInt8) :
    UrrWrites pfcpIeMeasurementMethod fun urr =>
      { urr with measurementMethod := x.getD urr.measurementMethod }
  | reportingTriggers (x : Option UInt8) :
    UrrWrites pfcpIeReportingTriggers fun urr =>
      { urr with reportingTriggers := x.getD urr.reportingTriggers }
  | volumeThreshold (x : Option UInt64) :
    UrrWrites pfcpIeVolumeThreshold fun urr => { urr with volumeThresholdTotal := x }
  | measurementPeriod (x : Option UInt32) :
    UrrWrites pfcpIeMeasurementPeriod fun urr =>
      { urr with measurementPeriod := x.or urr.measurementPeriod }

theorem UrrWrites.commute {t t' : UInt16} {u w : ParsedURR → ParsedURR} (hu : UrrWrites t u)
    (hw : UrrWrites t' w) (hne : t ≠ t') : Function.Commute u w := by
  cases hu <;> cases hw <;> first | exact absurd rfl hne | exact fun _ => rfl

def createUrrGrammar : Grammar where
  known := [pfcpIeUrrId, pfcpIeMeasurementMethod, pfcpIeReportingTriggers, pfcpIeVolumeThreshold,
    pfcpIeMeasurementPeriod]
  group := none
  group_mem := by simp

theorem parseCreateUrrIe_unknown (s : ParsedURR) (ie : UInt16 × Bytes)
    (h : ie.1 ∉ createUrrGrammar.known) : optStep parseCreateUrrIe s ie = some s := by
  simp only [createUrrGrammar, List.mem_cons, List.not_mem_nil, or_false, not_or] at h
  simp only [optStep, onPair, parseCreateUrrIe, RawIE.ieType, h, if_false]
  rfl

theorem parseCreateUrrIe_writing (ie : UInt16 × Bytes) :
    Writing (optStep parseCreateUrrIe) UrrWrites (fun ie => [ie.1]) ie := by
  obtain ⟨t, v⟩ := ie
  by_cases hk : t ∈ createUrrGrammar.known
  · simp only [createUrrGrammar, List.mem_cons, List.not_mem_nil, or_false] at hk
    rcases hk with rfl | rfl | rfl | rfl | rfl
    · exact writing_of_eq (.urrId (field32 v)) fun _ => rfl
    · exact writing_of_eq (.measurementMethod v.head?) fun _ => rfl
    · exact writing_of_eq (.reportingTriggers v.head?) fun _ => rfl
    · exact writing_of_parse parseVolumeThreshold .volumeThreshold fun _ => rfl
    · exact writing_of_eq (.measurementPeriod (field32 v)) fun _ => rfl
  · exact writing_of_skip fun s => parseCreateUrrIe_unknown s _ hk

/-- There is no group in a URR, and no loop inside. -/
def createUrrDescription : Description ParsedURR where
  grammar := createUrrGrammar
  step := parseCreateUrrIe
  innerStep := parseCreateUrrIe
  writes := UrrWrites
  writes_commute := UrrWrites.commute
  step_pair _ _ _ _ _ := rfl
  innerStep_pair _ _ _ _ _ := rfl
  step_unknown := parseCreateUrrIe_unknown
  innerStep_unknown _ _ h := by cases h
  step_leaf ie _ := parseCreateUrrIe_writing ie
  step_group _ _ h := by cases h
  innerStep_leaf := parseCreateUrrIe_writing

/-! ### Create FAR and Update FAR -/

/-- The arms of `parse_create_far` and `parse_update_far`, and of `parse_forwarding_params`. -/
inductive FarWrites : UInt16 → (ParsedFAR → ParsedFAR) → Prop
  | farId (x : Option UInt32) :
    FarWrites pfcpIeFarId fun far => { far with farId := x.getD far.farId }
  | applyAction (x : UInt8) : FarWrites pfcpIeApplyAction fun far => { far with applyAction := x }
  | destInterface (x : Option UInt8) :
    FarWrites pfcpIeDestinationInterface fun far =>
      { far with destInterface := (x.map (· &&& 0x0F)).or far.destInterface }
  | outerHeaderCreation (x : OuterHeaderCreation) :
    FarWrites pfcpIeOuterHeaderCreation fun far => { far with outerHeaderCreation := some x }

theorem FarWrites.commute {t t' : UInt16} {u w : ParsedFAR → ParsedFAR} (hu : FarWrites t u)
    (hw : FarWrites t' w) (hne : t ≠ t') : Function.Commute u w := by
  cases hu <;> cases hw <;> first | exact absurd rfl hne | exact fun _ => rfl

/-- Inside the forwarding parameters. -/
def forwardingParamsKnown : List UInt16 := [pfcpIeDestinationInterface, pfcpIeOuterHeaderCreation]

theorem parseForwardingParamsIe_unknown (s : ParsedFAR) (ie : UInt16 × Bytes)
    (h : ie.1 ∉ forwardingParamsKnown) : optStep parseForwardingParamsIe s ie = some s := by
  simp only [forwardingParamsKnown, List.mem_cons, List.not_mem_nil, or_false, not_or] at h
  simp only [optStep, onPair, parseForwardingParamsIe, RawIE.ieType, h, if_false]
  rfl

theorem parseForwardingParamsIe_writing (ie : UInt16 × Bytes) :
    Writing (optStep parseForwardingParamsIe) FarWrites (fun ie => [ie.1]) ie := by
  obtain ⟨t, v⟩ := ie
  by_cases hk : t ∈ forwardingParamsKnown
  · simp only [forwardingParamsKnown, List.mem_cons, List.not_mem_nil, or_false] at hk
    rcases hk with rfl | rfl
    · refine writing_of_eq (.destInterface v.head?) fun far => ?_
      cases v <;> rfl
    · exact writing_of_parse parseOuterHeaderCreation .outerHeaderCreation fun _ => rfl
  · exact writing_of_skip fun s => parseForwardingParamsIe_unknown s _ hk

/-- The types beside the forwarding parameters, which have types of their own in the two
parsers. -/
def farGrammar (forwardingIe : UInt16) : Grammar where
  known := [pfcpIeFarId, pfcpIeApplyAction, forwardingIe]
  group := some (forwardingIe, forwardingParamsKnown)
  group_mem := by simp

theorem parseFarIe_unknown (forwardingIe : UInt16) (s : ParsedFAR) (ie : UInt16 × Bytes)
    (h : ie.1 ∉ (farGrammar forwardingIe).known) :
    optStep (parseFarIe forwardingIe) s ie = some s := by
  simp only [farGrammar, List.mem_cons, List.not_mem_nil, or_false, not_or] at h
  simp only [optStep, onPair, parseFarIe, RawIE.ieType, h, if_false]
  rfl

theorem parseFarIe_writing (forwardingIe : UInt16) (ie : UInt16 × Bytes)
    (hg : ¬ (farGrammar forwardingIe).IsGroup ie) :
    Writing (optStep (parseFarIe forwardingIe)) FarWrites (fun ie => [ie.1]) ie := by
  obtain ⟨t, v⟩ := ie
  by_cases hk : t ∈ (farGrammar forwardingIe).known
  · simp only [farGrammar, List.mem_cons, List.not_mem_nil, or_false] at hk
    rcases hk with rfl | rfl | rfl
    · exact writing_of_eq (.farId (field32 v)) fun _ => rfl
    · exact writing_of_parse parseApplyAction .applyAction fun _ => rfl
    · exact absurd rfl hg
  · exact writing_of_skip fun s => parseFarIe_unknown forwardingIe s _ hk

def farDescription (forwardingIe : UInt16) (h : forwardingIe ∉ [pfcpIeFarId, pfcpIeApplyAction]) :
    Description ParsedFAR where
  grammar := farGrammar forwardingIe
  step := parseFarIe forwardingIe
  innerStep := parseForwardingParamsIe
  writes := FarWrites
  writes_commute := FarWrites.commute
  step_pair _ _ _ _ _ := rfl
  innerStep_pair _ _ _ _ _ := rfl
  step_unknown := parseFarIe_unknown forwardingIe
  innerStep_unknown t known hg := by
    obtain ⟨rfl, rfl⟩ := Prod.mk.inj (Option.some.inj hg)
    exact parseForwardingParamsIe_unknown
  step_leaf := parseFarIe_writing forwardingIe
  step_group s ie hg := by
    have ht : ie.1 = forwardingIe := (Option.some.inj hg).symm
    simp only [List.mem_cons, List.not_mem_nil, or_false, not_or] at h
    simp only [onPair, parseFarIe, RawIE.ieType, RawIE.value, ht, h, if_true, if_false]
    rfl
  innerStep_leaf := parseForwardingParamsIe_writing

/-! ### Create PDR -/

/-- The arms of `parse_create_pdr` and of `parse_pdi`; the SDF Filter has one in either. -/
inductive PdrWrites : UInt16 → (ParsedPDR → ParsedPDR) → Prop
  | pdrId (x : Option UInt16) :
    PdrWrites pfcpIePdrId fun pdr => { pdr with pdrId := x.getD pdr.pdrId }
  | precedence (x : Option UInt32) :
    PdrWrites pfcpIePrecedence fun pdr => { pdr with precedence := x.getD pdr.precedence }
  | farId (x : Option UInt32) :
    PdrWrites pfcpIeFarId fun pdr => { pdr with farId := x.or pdr.farId }
  | urrId (x : Option UInt32) :
    PdrWrites pfcpIeUrrId fun pdr => { pdr with urrId := x.or pdr.urrId }
  | outerHeaderRemoval :
    PdrWrites pfcpIeOuterHeaderRemoval fun pdr => { pdr with outerHeaderRemoval := true }
  | sdfFilter (x : SdfFilter) :
    PdrWrites pfcpIeSdfFilter fun pdr => { pdr with sdfFilter := some x }
  | sourceInterface (x : Option UInt8) :
    PdrWrites pfcpIeSourceInterface fun pdr =>
      { pdr with sourceInterface := (x.map (· &&& 0x0F)).getD pdr.sourceInterface }
  | fteid (x : UInt32 × Ipv4Addr) :
    PdrWrites pfcpIeFteid fun pdr => { pdr with localFteid := some x }
  | ueIpAddress (x : Ipv4Addr) :
    PdrWrites pfcpIeUeIpAddress fun pdr => { pdr with ueIp := some x }

theorem PdrWrites.commute {t t' : UInt16} {u w : ParsedPDR → ParsedPDR} (hu : PdrWrites t u)
    (hw : PdrWrites t' w) (hne : t ≠ t') : Function.Commute u w := by
  cases hu <;> cases hw <;> first | exact absurd rfl hne | exact fun _ => rfl

/-- Inside the PDI. -/
def pdiKnown : List UInt16 :=
  [pfcpIeSourceInterface, pfcpIeFteid, pfcpIeUeIpAddress, pfcpIeSdfFilter]

theorem parsePdiIe_unknown (s : ParsedPDR) (ie : UInt16 × Bytes) (h : ie.1 ∉ pdiKnown) :
    optStep parsePdiIe s ie = some s := by
  simp only [pdiKnown, List.mem_cons, List.not_mem_nil, or_false, not_or] at h
  simp only [optStep, onPair, parsePdiIe, RawIE.ieType, h, if_false]
  rfl

theorem parsePdiIe_writing (ie : UInt16 × Bytes) :
    Writing (optStep parsePdiIe) PdrWrites (fun ie => [ie.1]) ie := by
  obtain ⟨t, v⟩ := ie
  by_cases hk : t ∈ pdiKnown
  · simp only [pdiKnown, List.mem_cons, List.not_mem_nil, or_false] at hk
    rcases hk with rfl | rfl | rfl | rfl
    · refine writing_of_eq (.sourceInterface v.head?) fun pdr => ?_
      cases v <;> rfl
    · exact writing_of_parse parseFteid .fteid fun _ => rfl
    · exact writing_of_parse parseUeIpAddress .ueIpAddress fun _ => rfl
    · exact writing_of_parse parseSdfFilter .sdfFilter fun _ => rfl
  · exact writing_of_skip fun s => parsePdiIe_unknown s _ hk

def createPdrGrammar : Grammar where
  known := [pfcpIePdrId, pfcpIePrecedence, pfcpIePdi, pfcpIeFarId, pfcpIeUrrId,
    pfcpIeOuterHeaderRemoval, pfcpIeSdfFilter]
  group := some (pfcpIePdi, pdiKnown)
  group_mem := by simp

theorem parseCreatePdrIe_unknown (s : ParsedPDR) (ie : UInt16 × Bytes)
    (h : ie.1 ∉ createPdrGrammar.known) : optStep parseCreatePdrIe s ie = some s := by
  simp only [createPdrGrammar, List.mem_cons, List.not_mem_nil, or_false, not_or] at h
  simp only [optStep, onPair, parseCreatePdrIe, RawIE.ieType, h, if_false]
  rfl

theorem parseCreatePdrIe_writing (ie : UInt16 × Bytes) (hg : ¬ createPdrGrammar.IsGroup ie) :
    Writing (optStep parseCreatePdrIe) PdrWrites (fun ie => [ie.1]) ie := by
  obtain ⟨t, v⟩ := ie
  by_cases hk : t ∈ createPdrGrammar.known
  · simp only [createPdrGrammar, List.mem_cons, List.not_mem_nil, or_false] at hk
    rcases hk with rfl | rfl | rfl | rfl | rfl | rfl | rfl
    · exact writing_of_eq (.pdrId (field16 v)) fun _ => rfl
    · exact writing_of_eq (.precedence (field32 v)) fun _ => rfl
    · exact absurd rfl hg
    · exact writing_of_eq (.farId (field32 v)) fun _ => rfl
    · exact writing_of_eq (.urrId (field32 v)) fun _ => rfl
    · exact writing_of_eq .outerHeaderRemoval fun _ => rfl
    · exact writing_of_parse parseSdfFilter .sdfFilter fun _ => rfl
  · exact writing_of_skip fun s => parseCreatePdrIe_unknown s _ hk

def createPdrDescription : Description ParsedPDR where
  grammar := createPdrGrammar
  step := parseCreatePdrIe
  innerStep := parsePdiIe
  writes := PdrWrites
  writes_commute := PdrWrites.commute
  step_pair _ _ _ _ _ := rfl
  innerStep_pair _ _ _ _ _ := rfl
  step_unknown := parseCreatePdrIe_unknown
  innerStep_unknown t known hg := by
    obtain ⟨rfl, rfl⟩ := Prod.mk.inj (Option.some.inj hg)
    exact parsePdiIe_unknown
  step_leaf := parseCreatePdrIe_writing
  step_group s ie hg := by
    have ht : ie.1 = pfcpIePdi := (Option.some.inj hg).symm
    rw [onPair, ht]
    rfl
  innerStep_leaf := parsePdiIe_writing

/-! ### The four parsers -/

/-- A parser makes the same of every list of well-formed sub-IEs with distinct types, those inside
its group included, and of the list in another order with unknown sub-IEs among it: the same value,
or an error in both cases. -/
def Grammar.OrderFree {σ : Type} (g : Grammar) (parse : Bytes → Except PfcpError σ) : Prop :=
  ∀ xs ys : List (UInt16 × Bytes), (∀ ie ∈ xs, g.WellFormed ie) → (xs.flatMap g.typesOf).Nodup →
    g.Rearranged xs ys →
    (parse (ys.flatMap ieBytes)).toOption = (parse (xs.flatMap ieBytes)).toOption

/-- **The grouped parsers do not depend on the order** of the sub-IEs, nor on unknown ones among
them. -/
theorem grouped_orderFree :
    createPdrGrammar.OrderFree parseCreatePdr ∧
    (farGrammar pfcpIeForwardingParameters).OrderFree parseCreateFar ∧
    (farGrammar pfcpIeUpdateForwardingParameters).OrderFree parseUpdateFar ∧
    createUrrGrammar.OrderFree parseCreateUrr :=
  ⟨fun _ _ hwf hd h => createPdrDescription.parse_rearranged hwf hd h {},
    fun _ _ hwf hd h => (farDescription pfcpIeForwardingParameters (by decide)).parse_rearranged
      hwf hd h {},
    fun _ _ hwf hd h => (farDescription pfcpIeUpdateForwardingParameters
      (by decide)).parse_rearranged hwf hd h {},
    fun _ _ hwf hd h => createUrrDescription.parse_rearranged hwf hd h {}⟩

/-- The sub-IEs of a PDI. -/
def tidyPdi : List (UInt16 × Bytes) :=
  [(pfcpIeSourceInterface, [1]),
    (pfcpIeSdfFilter, [6, 10, 60, 0, 1, 8, 8, 8, 8, 4, 210, 22, 46])]

/-- The same from back to front, with a Cause between them. -/
def untidyPdi : List (UInt16 × Bytes) :=
  [(pfcpIeSdfFilter, [6, 10, 60, 0, 1, 8, 8, 8, 8, 4, 210, 22, 46]), (pfcpIeCause, [1]),
    (pfcpIeSourceInterface, [1])]

def tidyPdr : List (UInt16 × Bytes) :=
  [(pfcpIePdrId, [0, 7]), (pfcpIePdi, tidyPdi.flatMap ieBytes), (pfcpIeFarId, [0, 0, 0, 9])]

/-- The PDR from back to front, with a Node ID in it. -/
def untidyPdr : List (UInt16 × Bytes) :=
  [(pfcpIeFarId, [0, 0, 0, 9]), (pfcpIeNodeId, [0, 127, 0, 0, 1]),
    (pfcpIePdi, untidyPdi.flatMap ieBytes), (pfcpIePdrId, [0, 7])]

theorem rearranged_untidyPdr : createPdrGrammar.Rearranged tidyPdr untidyPdr := by
  have hinner : Rearranged pdiKnown tidyPdi untidyPdi :=
    .trans (.perm (.swap ..)) (.insert [_] [_] ⟨by decide, by decide⟩)
  have hgroup : createPdrGrammar.Rearranged tidyPdr [(pfcpIePdrId, [0, 7]),
      (pfcpIePdi, untidyPdi.flatMap ieBytes), (pfcpIeFarId, [0, 0, 0, 9])] :=
    .replace [_] [_] (.nested rfl hinner (by decide))
  exact .trans hgroup (.trans (.perm (List.reverse_perm _).symm)
    (.insert [_] [_, _] ⟨by decide, by decide⟩))

/-- The two PDRs are parsed to the same value. -/
theorem grouped_orderFree_pdr :
    (parseCreatePdr (untidyPdr.flatMap ieBytes)).toOption =
      (parseCreatePdr (tidyPdr.flatMap ieBytes)).toOption := by
  have hfits : (tidyPdi.flatMap ieBytes).length ≤ 65535 := by decide
  have htypes : tidyPdr.flatMap createPdrGrammar.typesOf =
      [pfcpIePdrId, pfcpIePdi, pfcpIeSourceInterface, pfcpIeSdfFilter, pfcpIeFarId] := by
    have hpdi : createPdrGrammar.typesOf (pfcpIePdi, tidyPdi.flatMap ieBytes) =
        [pfcpIePdi, pfcpIeSourceInterface, pfcpIeSdfFilter] := by
      rw [Grammar.typesOf, if_pos (by decide), map_fst_iterIes hfits]
      rfl
    rw [tidyPdr, List.flatMap_cons, List.flatMap_cons, hpdi]
    rfl
  refine grouped_orderFree.1 tidyPdr untidyPdr ?_ (by rw [htypes]; decide) rearranged_untidyPdr
  simp only [tidyPdr, List.forall_mem_cons]
  exact ⟨⟨by decide, fun h => absurd h (by decide)⟩, ⟨hfits, fun _ => ⟨tidyPdi, rfl⟩⟩,
    ⟨by decide, fun h => absurd h (by decide)⟩, List.forall_mem_nil _⟩

/-- Types inside the PDI have to be counted: of two SDF Filters, one beside it and one inside, the
later is taken. -/
theorem parseCreatePdr_two_filters {v v' : Bytes} {f f' : SdfFilter} (hv : v.length < 65532)
    (hv' : v'.length ≤ 65535) (hf : parseSdfFilter v = .ok f) (hf' : parseSdfFilter v' = .ok f') :
    let pdi := (pfcpIePdi, [(pfcpIeSdfFilter, v)].flatMap ieBytes)
    let sdf := (pfcpIeSdfFilter, v')
    (parseCreatePdr ([pdi, sdf].flatMap ieBytes)).toOption = some { sdfFilter := some f' } ∧
      (parseCreatePdr ([sdf, pdi].flatMap ieBytes)).toOption = some { sdfFilter := some f } := by
  intro pdi sdf
  have hlen : ([(pfcpIeSdfFilter, v)].flatMap ieBytes).length ≤ 65535 := by
    simp [ieBytes, u16ToBe, length_bytesBe]
    omega
  have hpdi : ∀ s, optStep parseCreatePdrIe s pdi = some { s with sdfFilter := some f } := by
    intro s
    have hg : createPdrDescription.grammar.IsGroup pdi := rfl
    have hgroup : optStep parseCreatePdrIe s pdi =
        [(pfcpIeSdfFilter, v)].foldlM (optStep parsePdiIe) s :=
      createPdrDescription.optStep_group hg rfl hlen s
    rw [hgroup, foldlM_cons_eq]
    change ((parseSdfFilter v >>= fun x => pure { s with sdfFilter := some x }).toOption).bind _ = _
    rw [hf]
    rfl
  have hsdf : ∀ s, optStep parseCreatePdrIe s sdf = some { s with sdfFilter := some f' } := by
    intro s
    change (parseSdfFilter v' >>= fun x => pure { s with sdfFilter := some x }).toOption = _
    rw [hf']
    rfl
  have hread : ∀ ies : List (UInt16 × Bytes), (∀ ie ∈ ies, ie = pdi ∨ ie = sdf) →
      (parseCreatePdr (ies.flatMap ieBytes)).toOption =
        ies.foldlM (optStep parseCreatePdrIe) {} := by
    intro ies hies
    apply toOption_foldlM_iterIes fun _ _ _ _ _ => rfl
    intro ie hie
    rcases hies ie hie with rfl | rfl
    · exact hlen
    · exact hv'
  rw [hread [pdi, sdf] (by simp), hread [sdf, pdi] (by simp)]
  simp only [foldlM_cons_eq, hpdi, hsdf, Option.bind_some]
  exact ⟨rfl, rfl⟩

end UpfEdge.Pfcp
