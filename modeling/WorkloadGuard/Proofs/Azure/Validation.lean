import WorkloadGuard.Azure.Restrictions
import WorkloadGuard.Proofs.Declaration
import WorkloadGuard.Proofs.Validation

/-!
# Valid Azure roles

An Azure role declares its spec by annotations only, so validation succeeds exactly when the spec
that they declare is well formed and they name nothing else in scope.

## Main statements

- `validate_eq_ok_iff`: what a validated role has passed, and that nothing else is asked of it.
- `isConfigurationError_of_validate`: a role that is refused is itself at fault.
-/

namespace WorkloadGuard

instance : ReportsConfiguration AzureKind where
  unsupported _ := rfl
  missing _ := rfl

namespace AzureRole

/-- The annotations of a role declare the value `value` for a kind. -/
def Declares (role : AzureRole) (kind : AzureKind) (value : String) : Prop :=
  DeclaresValue (ConstraintKind.provider AzureKind) role.serviceId role.annotations
    (AzureKind.spelling kind) value

theorem get?_declaredSpec_eq_some_iff {role : AzureRole} {kind : AzureKind} {value : String} :
    role.declaredSpec.get? kind = some value ↔ role.Declares kind value :=
  AnnotationIndex.get?_identitySpec_eq_some_iff

theorem contains_declaredSpec_iff {role : AzureRole} {kind : AzureKind} :
    role.declaredSpec.contains kind = true ↔ ∃ value, role.Declares kind value := by
  unfold ResourceSet.contains
  rw [Option.isSome_iff_exists]
  simp only [get?_declaredSpec_eq_some_iff]

/-- An Azure spec is well formed when it has a subscription, a resource group and at most one
identity. -/
theorem wellFormed_iff {spec : ResourceSet AzureKind} :
    WellFormed spec ↔ spec.contains .subscriptionId = true ∧ spec.contains .resourceGroup = true ∧
      ¬ (spec.contains .userAssignedIdentity = true ∧
        spec.contains .systemAssignedIdentity = true) := by
  refine ⟨?_, ?_⟩
  · intro h
    obtain ⟨hrequired, hexclusive⟩ := h
    refine ⟨hrequired _ rfl, hrequired _ rfl, ?_⟩
    intro hboth
    have heq : AzureKind.userAssignedIdentity = .systemAssignedIdentity :=
      hexclusive _ _ rfl rfl hboth.1 hboth.2
    cases heq
  · intro h
    obtain ⟨hsubscription, hgroup, hone⟩ := h
    refine ⟨?_, ?_⟩
    · intro kind hkind
      cases kind with
      | subscriptionId => exact hsubscription
      | resourceGroup => exact hgroup
      | userAssignedIdentity => cases hkind
      | systemAssignedIdentity => cases hkind
    · intro a b ha hb hda hdb
      -- only the two kinds of identities are exclusive
      have hkinds : ∀ kind : AzureKind, ConstraintKind.group kind = .exclusive →
          kind = .userAssignedIdentity ∨ kind = .systemAssignedIdentity := by
        intro kind
        cases kind <;> decide
      -- two identities of different kinds would both be declared
      rcases hkinds a ha with rfl | rfl
      · rcases hkinds b hb with rfl | rfl
        · rfl
        · exact absurd ⟨hda, hdb⟩ hone
      · rcases hkinds b hb with rfl | rfl
        · exact absurd ⟨hdb, hda⟩ hone
        · rfl

/-- A role is valid exactly when it names nothing else in scope and declares a well-formed spec;
validation then answers with that spec. -/
theorem validate_eq_ok_iff {role : AzureRole} {spec : ResourceSet AzureKind} :
    role.validate = .ok spec ↔
      PermittedScope AzureKind role.serviceId role.annotations ∧ WellFormed role.declaredSpec ∧
        spec = role.declaredSpec := by
  simp only [validate, Outcome.bind_eq_ok_iff, Outcome.pure_eq_ok_iff]
  refine ⟨?_, ?_⟩
  · intro h
    obtain ⟨⟨⟩, hscope, ⟨⟩, hwell, rfl⟩ := h
    exact ⟨checkScope_eq_ok_iff.1 hscope, checkSpec_eq_ok_iff.1 hwell, rfl⟩
  · intro h
    obtain ⟨hscope, hwell, rfl⟩ := h
    exact ⟨(), checkScope_eq_ok_iff.2 hscope, (), checkSpec_eq_ok_iff.2 hwell, rfl⟩

theorem isConfigurationError_of_validate {role : AzureRole} {error : RestrictionError}
    (herror : role.validate = .error error) : error.isConfigurationError = true := by
  unfold validate at herror
  rcases Outcome.bind_eq_error_iff.1 herror with hscope | ⟨_, _, hrest⟩
  · exact isConfigurationError_of_checkScope hscope
  rcases Outcome.bind_eq_error_iff.1 hrest with hspec | ⟨_, _, hpure⟩
  · exact isConfigurationError_of_checkSpec hspec
  · cases hpure

end AzureRole

end WorkloadGuard
