import WorkloadGuard.Kind.Kubernetes
import WorkloadGuard.Proofs.Matching

/-!
# The first difference

Both sides of a decision are collected from lists of specs, and such a list may give a kind more
than one value. Here matching is related to the lists themselves. It succeeds exactly when the last
value declared for each kind is also the last one observed of it, and where it fails it reports the
earliest kind, in declaration order, of which this is not so. The verdict is thus the inclusion of
one map in another, and it keeps to what inclusion obeys.

## Main statements

- `get?_ofSpecs_eq_some_iff`: a collected set holds the last value of each kind.
- `firstUnmet?_eq_some_iff`: the search for a difference finds the earliest one.
- `included_append`, `included_filter`: what is added to a list of other kinds, and what is left of
  it when kinds are removed.
- `matching_decides_inclusion`: the verdict on two lists, and the laws that it obeys.
-/

namespace WorkloadGuard

/-! ## Lists of specs -/

section Lists

variable {K : Type}

/-- The last spec of a kind in the list gives it the value `value`. -/
def LastValue (specs : List (K × String)) (kind : K) (value : String) : Prop :=
  ∃ before after, specs = before ++ (kind, value) :: after ∧ ∀ spec ∈ after, spec.1 ≠ kind

/-- The wider list gives every kind of the narrower one the same last value. -/
def Included (narrower wider : List (K × String)) : Prop :=
  ∀ kind value, LastValue narrower kind value → LastValue wider kind value

/-- A list of specs keeps its values when specs of other kinds are added to it. -/
theorem included_append {specs more : List (K × String)}
    (hother : ∀ spec ∈ specs, ∀ added ∈ more, added.1 ≠ spec.1) :
    Included specs (specs ++ more) := by
  intro kind value hlast
  obtain ⟨before, after, rfl, hafter⟩ := hlast
  refine ⟨before, after ++ more, by simp, ?_⟩
  intro spec hspec
  rcases List.mem_append.1 hspec with hold | hadded
  · exact hafter spec hold
  · exact hother (kind, value) (by simp) spec hadded

/-- When kinds are removed from a list of specs, those that are left keep their values. -/
theorem included_filter (kept : K → Bool) (specs : List (K × String)) :
    Included (specs.filter fun spec => kept spec.1) specs := by
  intro kind value hlast
  obtain ⟨before, after, heq, hafter⟩ := hlast
  obtain ⟨first, rest, rfl, rfl, hrest⟩ := List.filter_eq_append_iff.1 heq
  obtain ⟨passed, last, rfl, hpassed, hkept, rfl⟩ := List.filter_eq_cons_iff.1 hrest
  refine ⟨first ++ passed, last, by simp, ?_⟩
  -- a later spec of the kind would have been kept as well
  intro spec hspec hkind
  apply hafter spec _ hkind
  exact List.mem_filter.2 ⟨hspec, by rw [hkind]; exact hkept⟩

end Lists

namespace ResourceSet

variable {K : Type} [DecidableEq K]

/-! ## Collected sets -/

/-- A collected set holds the last value of each kind. -/
theorem get?_ofSpecs_eq_some_iff {specs : List (K × String)} {kind : K} {value : String} :
    (ofSpecs specs).get? kind = some value ↔ LastValue specs kind value := by
  rw [get?_ofSpecs, Option.map_eq_some_iff]
  unfold LastValue
  constructor
  · rintro ⟨⟨found, _⟩, hfind, rfl⟩
    obtain ⟨hkind, after, before, hreverse, hafter⟩ := List.find?_eq_some_iff_append.1 hfind
    obtain rfl : found = kind := by simpa using hkind
    refine ⟨before.reverse, after.reverse, ?_, ?_⟩
    · apply List.reverse_inj.1
      simp [hreverse]
    · intro spec hspec
      simpa using hafter spec (List.mem_reverse.1 hspec)
  · rintro ⟨before, after, rfl, hafter⟩
    refine ⟨(kind, value), ?_, rfl⟩
    rw [List.find?_eq_some_iff_append]
    refine ⟨by simp, after.reverse, before.reverse, by simp, ?_⟩
    intro spec hspec
    simpa using hafter spec (List.mem_reverse.1 hspec)

theorem ofSpecs_le_ofSpecs_iff {narrower wider : List (K × String)} :
    ofSpecs narrower ≤ ofSpecs wider ↔ Included narrower wider := by
  unfold Included
  simp only [← get?_ofSpecs_eq_some_iff]
  rfl

/-! ## The search for a difference -/

/-- A kind is declared, and it is not observed with the value that is declared for it. -/
def Unmet (declared observed : ResourceSet K) (kind : K) : Prop :=
  ∃ value, declared.get? kind = some value ∧ observed.get? kind ≠ some value

theorem unmet_ofSpecs_iff {declared observed : List (K × String)} {kind : K} :
    (ofSpecs declared).Unmet (ofSpecs observed) kind ↔
      ∃ value, LastValue declared kind value ∧ ¬ LastValue observed kind value := by
  simp only [Unmet, ne_eq, get?_ofSpecs_eq_some_iff]

variable [ConstraintKind K]

/-- The search for a difference finds the earliest one. -/
theorem firstUnmet?_eq_some_iff {declared observed : ResourceSet K} {kind : K} :
    declared.firstUnmet? observed = some kind ↔
      ∃ before after, (ConstraintKind.all : List K) = before ++ kind :: after ∧
        declared.Unmet observed kind ∧ ∀ earlier ∈ before, ¬ declared.Unmet observed earlier := by
  -- a kind is passed over when it gives no spec, or a spec that is observed
  have hunmet (other : K) :
      ((declared.get? other).map fun value => (other, value)).any
          (fun spec => observed.get? spec.1 != some spec.2) = true ↔
        declared.Unmet observed other := by
    cases hvalue : declared.get? other <;> simp [Unmet, hvalue]
  unfold firstUnmet? toSpecs
  rw [List.find?_filterMap, Option.map_bind]
  simp only [Option.bind_eq_some_iff, List.find?_eq_some_iff_append, hunmet, Bool.not_eq_true',
    ← Bool.not_eq_true]
  constructor
  · rintro ⟨found, ⟨hfound, before, after, hall, hbefore⟩, hspec⟩
    obtain rfl : found = kind := by
      obtain ⟨value, hvalue, -⟩ := hfound
      simpa [hvalue] using hspec
    exact ⟨before, after, hall, hfound, hbefore⟩
  · rintro ⟨before, after, hall, hkind, hbefore⟩
    refine ⟨kind, ⟨hkind, before, after, hall, hbefore⟩, ?_⟩
    obtain ⟨value, hvalue, -⟩ := hkind
    simp [hvalue]

/-- Matching fails with the earliest kind that is not met, and with nothing else. -/
theorem matchAgainst_eq_error_iff {declared observed : ResourceSet K} {error : RestrictionError} :
    declared.matchAgainst observed = .error error ↔
      ∃ before kind after, (ConstraintKind.all : List K) = before ++ kind :: after ∧
        declared.Unmet observed kind ∧ (∀ earlier ∈ before, ¬ declared.Unmet observed earlier) ∧
        error = .restrictionUnmet (ConstraintKind.spelling kind) := by
  have hfirst : declared.matchAgainst observed = .error error ↔
      ∃ kind, declared.firstUnmet? observed = some kind ∧
        error = .restrictionUnmet (ConstraintKind.spelling kind) := by
    unfold matchAgainst
    split
    · rename_i kind hkind
      simp [hkind, eq_comm]
    · rename_i hnone
      simp [hnone]
  rw [hfirst]
  simp only [firstUnmet?_eq_some_iff]
  constructor
  · rintro ⟨kind, ⟨before, after, hall, hkind, hbefore⟩, herror⟩
    exact ⟨before, kind, after, hall, hkind, hbefore, herror⟩
  · rintro ⟨before, kind, after, hall, hkind, hbefore, herror⟩
    exact ⟨kind, ⟨before, after, hall, hkind, hbefore⟩, herror⟩

/-! ## The verdict on two lists -/

theorem matchAgainst_ofSpecs_eq_ok_iff {declared observed : List (K × String)} :
    (ofSpecs declared).matchAgainst (ofSpecs observed) = .ok () ↔ Included declared observed := by
  rw [matchAgainst_eq_ok_iff_le, ofSpecs_le_ofSpecs_iff]

/-- Matching decides inclusion, whatever lists the two sets are collected from: it succeeds when the
last value declared for each kind is the last one observed of it, and else it reports the earliest
kind of which this is not so. Therefore a set matches itself, matching carries over from one set to
the next, and it is kept when more kinds are observed and when fewer are declared. -/
theorem matching_decides_inclusion (declared observed : List (K × String)) :
    ((ofSpecs declared).matchAgainst (ofSpecs observed) = .ok () ↔
      ∀ kind value, LastValue declared kind value → LastValue observed kind value) ∧
    (∀ error, (ofSpecs declared).matchAgainst (ofSpecs observed) = .error error ↔
      ∃ before kind after, (ConstraintKind.all : List K) = before ++ kind :: after ∧
        (∃ value, LastValue declared kind value ∧ ¬ LastValue observed kind value) ∧
        (∀ earlier ∈ before, ∀ value, LastValue declared earlier value →
          LastValue observed earlier value) ∧
        error = .restrictionUnmet (ConstraintKind.spelling kind)) ∧
    (ofSpecs declared).matchAgainst (ofSpecs declared) = .ok () ∧
    ((ofSpecs declared).matchAgainst (ofSpecs observed) = .ok () →
      (∀ others, (ofSpecs observed).matchAgainst (ofSpecs others) = .ok () →
        (ofSpecs declared).matchAgainst (ofSpecs others) = .ok ()) ∧
      (∀ wider, Included observed wider →
        (ofSpecs declared).matchAgainst (ofSpecs wider) = .ok ()) ∧
      ∀ narrower, Included narrower declared →
        (ofSpecs narrower).matchAgainst (ofSpecs observed) = .ok ()) := by
  refine ⟨matchAgainst_ofSpecs_eq_ok_iff, ?_, ?_, ?_⟩
  · intro error
    simp only [matchAgainst_eq_error_iff, unmet_ofSpecs_iff, not_exists, not_and, Classical.not_not]
  · rw [matchAgainst_eq_ok_iff_le]
  · intro hmatch
    rw [matchAgainst_eq_ok_iff_le] at hmatch
    refine ⟨fun others hothers => ?_, fun wider hwider => ?_, fun narrower hnarrower => ?_⟩
    · rw [matchAgainst_eq_ok_iff_le] at hothers ⊢
      exact le_trans hmatch hothers
    · rw [matchAgainst_eq_ok_iff_le]
      exact le_trans hmatch (ofSpecs_le_ofSpecs_iff.2 hwider)
    · rw [matchAgainst_eq_ok_iff_le]
      exact le_trans (ofSpecs_le_ofSpecs_iff.2 hnarrower) hmatch

/-- A pod that is declared twice matches by its second value, also when a deployment is observed
besides and when only the namespace is asked for. -/
theorem matching_of_repeated_pod :
    let declared : List (KubernetesKind × String) :=
      [(.pod, "web-1"), (.podNamespace, "shop"), (.pod, "web-0")]
    let observed : List (KubernetesKind × String) :=
      [(.podNamespace, "shop"), (.serviceAccount, "default"), (.pod, "web-0")]
    let wider := observed ++ [(.deployment, "web")]
    let narrower := declared.filter fun spec => spec.1 == .podNamespace
    (ofSpecs declared).matchAgainst (ofSpecs observed) = .ok () ∧
      (ofSpecs declared).matchAgainst (ofSpecs wider) = .ok () ∧
      (ofSpecs narrower).matchAgainst (ofSpecs observed) = .ok () := by
  intro declared observed wider narrower
  have hmatch : (ofSpecs declared).matchAgainst (ofSpecs observed) = .ok () := by rfl
  obtain ⟨_, hwider, hnarrower⟩ := (matching_decides_inclusion declared observed).2.2.2 hmatch
  refine ⟨hmatch, hwider wider ?_, hnarrower narrower ?_⟩
  · apply included_append
    decide
  · exact included_filter (fun kind => kind == .podNamespace) declared

end ResourceSet

end WorkloadGuard
