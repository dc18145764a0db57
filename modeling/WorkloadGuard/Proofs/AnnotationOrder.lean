import WorkloadGuard.Proofs.ScopeOffenders

/-!
# The order of annotations

A policy may be written in any order, and a name that is repeated counts only once. Here two lists
of annotations are compared that have the same first value for each name. A role is the same with
either of them: it declares the same identity, and validation has the same outcome. Only the scope
check can tell the lists apart, since it blames the first offender that it finds; but whomever it
blames in one list is an offender in the other one too.

## Main statements

- `SameFirstValues.resolve_eq`, `SameFirstValues.hasProvider_eq`: the readers of an index do not see
  in what order it was filled.
- `SameFirstValues.checkScope_agrees`: the scope check sees no more of it than whom it blames.
- `outcome_of_sameFirstValues`: the outcomes of both providers, and the lists that are compared.
-/

namespace WorkloadGuard

/-! ## Lists and outcomes that are compared -/

/-- Each name has the same first value in both lists, and so it is in both or in neither. -/
def SameFirstValues (a b : List AnnotationEntry) : Prop :=
  ∀ name value, FirstValue a name value ↔ FirstValue b name value

/-- Two outcomes, one for each list, that differ in nothing but whom they blame. -/
inductive AgreeUpToBlame (K : Type) [DecidableEq K] [ConstraintKind K] (serviceId : String)
    (a b : List AnnotationEntry) {α : Type} :
    Except RestrictionError α → Except RestrictionError α → Prop where
  /-- The same value, or the same error. -/
  | same (outcome : Except RestrictionError α) : AgreeUpToBlame K serviceId a b outcome outcome
  /-- The scope check fails for both lists, each time with an offender that is in both. -/
  | blamed {base other : String}
      (hbase : Offends K serviceId a base ∧ Offends K serviceId b base)
      (hother : Offends K serviceId a other ∧ Offends K serviceId b other) :
      AgreeUpToBlame K serviceId a b (.error (ConstraintKind.unsupported K base))
        (.error (ConstraintKind.unsupported K other))

/-! ## The same first values -/

variable {a b : List AnnotationEntry}

theorem sameFirstValues_iff :
    SameFirstValues a b ↔ ∀ name, annotationValue? a name = annotationValue? b name := by
  unfold SameFirstValues
  simp only [← annotationValue?_eq_some_iff]
  exact forall_congr' fun name => Option.ext_iff.symm

/-- The first values need only be compared for the names that occur. -/
theorem sameFirstValues_iff_forall_mem :
    SameFirstValues a b ↔
      ∀ entry ∈ a ++ b, annotationValue? a entry.name = annotationValue? b entry.name := by
  rw [sameFirstValues_iff]
  refine ⟨fun h entry _ => h entry.name, ?_⟩
  intro hmem name
  by_cases hname : ∃ entry ∈ a ++ b, entry.name = name
  · obtain ⟨entry, hentry, rfl⟩ := hname
    exact hmem entry hentry
  · have hne : ∀ entry ∈ a ++ b, entry.name ≠ name :=
      fun entry hentry heq => hname ⟨entry, hentry, heq⟩
    rw [annotationValue?_eq_none_iff.2 fun entry h => hne entry (List.mem_append_left _ h),
      annotationValue?_eq_none_iff.2 fun entry h => hne entry (List.mem_append_right _ h)]

instance (a b : List AnnotationEntry) : Decidable (SameFirstValues a b) :=
  decidable_of_iff _ sameFirstValues_iff_forall_mem.symm

example : ¬ SameFirstValues [⟨"pod", "a"⟩, ⟨"pod", "b"⟩] [⟨"pod", "b"⟩, ⟨"pod", "a"⟩] := by decide

/-- A list may be reordered as long as the annotations of each name keep their order. -/
theorem sameFirstValues_of_filter_eq
    (horder : ∀ name, a.filter (fun entry => entry.name == name) =
      b.filter fun entry => entry.name == name) : SameFirstValues a b := by
  refine sameFirstValues_iff.2 fun name => ?_
  unfold annotationValue?
  rw [← List.head?_filter, ← List.head?_filter, horder name]

/-- An annotation may be added or dropped as long as its name is found before it. -/
theorem sameFirstValues_of_repeated {before after : List AnnotationEntry} {entry : AnnotationEntry}
    (hrepeated : ∃ other ∈ before, other.name = entry.name) :
    SameFirstValues (before ++ entry :: after) (before ++ after) := by
  refine sameFirstValues_iff.2 fun name => ?_
  by_cases hname : entry.name = name
  · -- the value is found before the annotation is reached
    obtain ⟨other, hother, heq⟩ := hrepeated
    obtain ⟨value, hfirst⟩ := exists_firstValue_iff.2 ⟨other, hother, heq.trans hname⟩
    rw [annotationValue?_append, annotationValue?_append, annotationValue?_eq_some_iff.2 hfirst,
      Option.some_or, Option.some_or]
  · exact annotationValue?_insert hname

namespace SameFirstValues

/-- The same kinds of names are found in both lists. -/
theorem exists_name_iff (hsame : SameFirstValues a b) (p : String → Prop) :
    (∃ entry ∈ a, p entry.name) ↔ ∃ entry ∈ b, p entry.name := by
  have hoccurs (entries : List AnnotationEntry) :
      (∃ entry ∈ entries, p entry.name) ↔
        ∃ name, (∃ value, FirstValue entries name value) ∧ p name := by
    simp only [exists_firstValue_iff]
    refine ⟨fun ⟨entry, hentry, hp⟩ => ⟨entry.name, ⟨entry, hentry, rfl⟩, hp⟩, ?_⟩
    intro h
    obtain ⟨_, ⟨entry, hentry, rfl⟩, hp⟩ := h
    exact ⟨entry, hentry, hp⟩
  rw [hoccurs, hoccurs]
  exact exists_congr fun name => and_congr_left fun _ => exists_congr (hsame name)

/-! ## The readers of an index -/

theorem get?_eq (hsame : SameFirstValues a b) (name : String) :
    (AnnotationIndex.ofList a).get? name = (AnnotationIndex.ofList b).get? name := by
  rw [AnnotationIndex.get?_ofList, AnnotationIndex.get?_ofList, sameFirstValues_iff.1 hsame name]

theorem resolve_eq (hsame : SameFirstValues a b) (provider serviceId base : String) :
    (AnnotationIndex.ofList a).resolve provider serviceId base =
      (AnnotationIndex.ofList b).resolve provider serviceId base := by
  simp only [AnnotationIndex.resolve, hsame.get?_eq]

theorem hasProvider_eq (hsame : SameFirstValues a b) (provider : String) :
    (AnnotationIndex.ofList a).hasProvider provider =
      (AnnotationIndex.ofList b).hasProvider provider := by
  rw [Bool.eq_iff_iff, AnnotationIndex.hasProvider_iff, AnnotationIndex.hasProvider_iff]
  exact hsame.exists_name_iff (LivesBelow provider)

variable {K : Type} [DecidableEq K] [ConstraintKind K] {serviceId : String}

theorem identitySpec_eq (hsame : SameFirstValues a b) :
    (AnnotationIndex.ofList a).identitySpec K serviceId =
      (AnnotationIndex.ofList b).identitySpec K serviceId := by
  simp only [AnnotationIndex.identitySpec, hsame.resolve_eq]

/-! ## The scope check -/

theorem offends_iff (hsame : SameFirstValues a b) {base : String} :
    Offends K serviceId a base ↔ Offends K serviceId b base :=
  and_congr_right fun _ => hsame.exists_name_iff (CountsInScope K serviceId base)

/-- The scope check passes for both lists, or it blames offenders that are in both. -/
theorem checkScope_agrees (hsame : SameFirstValues a b) :
    AgreeUpToBlame K serviceId a b (checkScope K (.ofList a) serviceId)
      (checkScope K (.ofList b) serviceId) := by
  have hscope : PermittedScope K serviceId a ↔ PermittedScope K serviceId b := by
    simp only [permittedScope_iff_forall_not_offends, hsame.offends_iff]
  by_cases ha : PermittedScope K serviceId a
  · rw [checkScope_of_permittedScope ha, checkScope_of_permittedScope (hscope.1 ha)]
    exact .same _
  · obtain ⟨base, hbase⟩ := exists_blamed_iff.2 ha
    obtain ⟨other, hother⟩ := exists_blamed_iff.2 (mt hscope.2 ha)
    rw [checkScope_of_blamed hbase, checkScope_of_blamed hother]
    exact .blamed ⟨hbase.offends, hsame.offends_iff.1 hbase.offends⟩
      ⟨hsame.offends_iff.2 hother.offends, hother.offends⟩

end SameFirstValues

/-- What follows a check does not see whom the check blames. -/
theorem AgreeUpToBlame.bind {K : Type} [DecidableEq K] [ConstraintKind K] {serviceId : String}
    {α β : Type} {x y : Except RestrictionError α} (hagree : AgreeUpToBlame K serviceId a b x y)
    (f : α → Except RestrictionError β) :
    AgreeUpToBlame K serviceId a b (x >>= f) (y >>= f) := by
  cases hagree with
  | same => exact .same _
  | blamed hbase hother => exact .blamed hbase hother

/-! ## Roles -/

variable {serviceId : String}

namespace AzureRole

theorem declaredSpec_eq_of_sameFirstValues (hsame : SameFirstValues a b) :
    declaredSpec ⟨a, serviceId⟩ = declaredSpec ⟨b, serviceId⟩ :=
  hsame.identitySpec_eq

theorem validate_agrees (hsame : SameFirstValues a b) :
    AgreeUpToBlame AzureKind serviceId a b (validate ⟨a, serviceId⟩) (validate ⟨b, serviceId⟩) := by
  simp only [validate, hsame.identitySpec_eq]
  exact hsame.checkScope_agrees.bind _

end AzureRole

namespace KubernetesRole

variable {hostId : RoleId} {settings : KubernetesSettings}

/-- A role has the same identity, or the name of its host is refused with the same error. -/
theorem identityFrom_eq_of_sameFirstValues (hsame : SameFirstValues a b) :
    identityFrom ⟨hostId, a, serviceId⟩ settings (.ofList a) =
      identityFrom ⟨hostId, b, serviceId⟩ settings (.ofList b) := by
  simp only [identityFrom, declaredSpec, containerName, hsame.hasProvider_eq,
    hsame.identitySpec_eq, hsame.resolve_eq, hsame.get?_eq]

theorem validate_agrees (hsame : SameFirstValues a b) :
    AgreeUpToBlame KubernetesKind serviceId a b (validate ⟨hostId, a, serviceId⟩ settings)
      (validate ⟨hostId, b, serviceId⟩ settings) := by
  simp only [validate, identityFrom_eq_of_sameFirstValues hsame]
  exact hsame.checkScope_agrees.bind _

end KubernetesRole

/-- The order of annotations does not matter. With two lists that have the same first value for each
name, a role of either provider declares the same, and validation has the same outcome, value or
error; except that where the scope check fails, for both, it may blame another offender, which is
then in both lists. Lists have the same first values if the annotations of each name keep their
order, and if one list has an annotation more whose name is found before it. -/
theorem outcome_of_sameFirstValues :
    (∀ (a b : List AnnotationEntry) (serviceId : String), SameFirstValues a b →
      (AzureRole.declaredSpec ⟨a, serviceId⟩ = AzureRole.declaredSpec ⟨b, serviceId⟩ ∧
        AgreeUpToBlame AzureKind serviceId a b (AzureRole.validate ⟨a, serviceId⟩)
          (AzureRole.validate ⟨b, serviceId⟩)) ∧
      ∀ (hostId : RoleId) (settings : KubernetesSettings),
        KubernetesRole.buildIdentity ⟨hostId, a, serviceId⟩ settings =
            KubernetesRole.buildIdentity ⟨hostId, b, serviceId⟩ settings ∧
          AgreeUpToBlame KubernetesKind serviceId a b
            (KubernetesRole.validate ⟨hostId, a, serviceId⟩ settings)
            (KubernetesRole.validate ⟨hostId, b, serviceId⟩ settings)) ∧
    (∀ a b : List AnnotationEntry,
      (∀ name, a.filter (fun entry => entry.name == name) =
        b.filter fun entry => entry.name == name) → SameFirstValues a b) ∧
    ∀ (before after : List AnnotationEntry) (entry : AnnotationEntry),
      (∃ other ∈ before, other.name = entry.name) →
        SameFirstValues (before ++ entry :: after) (before ++ after) := by
  refine ⟨?_, fun a b horder => ?_, fun before after entry hrepeated => ?_⟩
  · intro a b serviceId hsame
    refine ⟨⟨?_, AzureRole.validate_agrees hsame⟩, fun hostId settings => ⟨?_, ?_⟩⟩
    · exact AzureRole.declaredSpec_eq_of_sameFirstValues hsame
    · exact KubernetesRole.identityFrom_eq_of_sameFirstValues hsame
    · exact KubernetesRole.validate_agrees hsame
  · exact sameFirstValues_of_filter_eq horder
  · exact sameFirstValues_of_repeated hrepeated

/-- The `shelf` and the `till` change places and the second namespace is dropped; either may be
blamed now, and the identity is as before. -/
theorem outcome_of_swapped_shelf :
    let shelf : AnnotationEntry := ⟨"authn-k8s/shelf", "oak"⟩
    let till : AnnotationEntry := ⟨"authn-k8s/till", "left"⟩
    let shop : AnnotationEntry := ⟨"authn-k8s/namespace", "shop"⟩
    let mall : AnnotationEntry := ⟨"authn-k8s/namespace", "mall"⟩
    let role : KubernetesRole := ⟨⟨"acme:host:web"⟩, [shelf, shop, till, mall], "prod"⟩
    let swapped : KubernetesRole := ⟨⟨"acme:host:web"⟩, [till, shop, shelf], "prod"⟩
    SameFirstValues role.annotations swapped.annotations ∧
      role.buildIdentity {} = swapped.buildIdentity {} ∧
      AgreeUpToBlame KubernetesKind "prod" role.annotations swapped.annotations
        (role.validate {}) (swapped.validate {}) := by
  intro shelf till shop mall role swapped
  obtain ⟨houtcome, hordered, hrepeated⟩ := outcome_of_sameFirstValues
  have hdropped : SameFirstValues [shelf, shop, till, mall] [shelf, shop, till] :=
    hrepeated [shelf, shop, till] [] mall ⟨shop, .tail _ List.mem_cons_self, rfl⟩
  have hswapped : SameFirstValues [shelf, shop, till] [till, shop, shelf] := by
    refine hordered _ _ fun name => ?_
    by_cases hshelf : shelf.name = name
    · subst hshelf
      decide
    · by_cases htill : till.name = name
      · subst htill
        decide
      · simp [List.filter_cons, hshelf, htill]
  have hsame : SameFirstValues role.annotations swapped.annotations :=
    fun name value => (hdropped name value).trans (hswapped name value)
  exact ⟨hsame, (houtcome _ _ "prod" hsame).2 ⟨"acme:host:web"⟩ {}⟩

end WorkloadGuard
