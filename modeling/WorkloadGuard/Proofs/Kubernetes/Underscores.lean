import WorkloadGuard.Proofs.Kubernetes.HostNames
import WorkloadGuard.Proofs.Kubernetes.Modes

/-!
# Names with underscores

Three kinds of constraints have two spellings, one with a dash and one with an underscore, and an
operator decides whether the names of hosts may use the second. Here every name is read twice, with
and without this permission. The permission adds names and changes none: a name that could be read
stands for what it stood for, a malformed name is still malformed, and the names that are added say
what they would say with a dash.

## Main statements

- `HostIdentifier.standsFor_true_iff`, `HostIdentifier.hasUnknownType_false_iff`: what the
  permission adds to the grammar of names.
- `HostIdentifier.parse_eq_or_underscoredHost`: two readings differ only for the names that are
  added.
- `HostIdentifier.EndsIn.exists_lead`: the type of a name can be replaced without moving the other
  segments.
- `KubernetesRole.underscores_only_add`: the two readings of names, and those of whole roles.
-/

namespace WorkloadGuard

/-! ## Kinds with two spellings -/

/-- The kinds whose spellings with a dash and with an underscore differ. -/
def KubernetesKind.respelled : List KubernetesKind :=
  [.serviceAccount, .deploymentConfig, .statefulSet]

theorem KubernetesKind.mem_respelled_iff {kind : KubernetesKind} :
    kind ∈ respelled ↔ kind.underscored ≠ kind.spelling := by
  cases kind <;> decide

theorem KubernetesKind.ne_podNamespace_of_respelled {kind : KubernetesKind}
    (hkind : kind ∈ respelled) : kind ≠ .podNamespace := by
  rintro rfl
  exact absurd hkind (by decide)

/-! ## Another name in the same place -/

/-- What stands in front of a name in an id would stand there in front of another name, provided
that the other one does not bring the first colon. -/
theorem RoleId.HasName.exists_front {id : RoleId} {name : String} (hname : id.HasName name) :
    ∃ front, id.text = front ++ name ∧ ∀ other : String,
      (':' ∈ other.toList → ':' ∈ name.toList) → HasName ⟨front ++ other⟩ other := by
  cases hname with
  | @afterSecond account kind _ htext haccount hkind =>
    have happend (other : String) :
        account ++ ":" ++ (kind ++ ":") ++ other = account ++ ":" ++ (kind ++ ":" ++ other) := by
      simp only [String.append_assoc]
    refine ⟨account ++ ":" ++ (kind ++ ":"), htext.trans (happend _).symm, fun other _ => ?_⟩
    exact .afterSecond (happend other) haccount hkind
  | @afterOnly account _ htext haccount hfree =>
    refine ⟨account ++ ":", htext, fun other hother => ?_⟩
    exact .afterOnly rfl haccount fun hcolon => hfree (hother hcolon)
  | whole hfree =>
    refine ⟨"", by simp, fun other hother => ?_⟩
    have hid : (⟨"" ++ other⟩ : RoleId) = ⟨other⟩ := by simp
    rw [hid]
    exact .whole fun hcolon => hfree (hother hcolon)

namespace HostIdentifier

theorem exists_lead_of_lastThree? {name podNamespace type value : String}
    (hlast : lastThree? name = some (podNamespace, type, value)) :
    ∃ lead, name = lead ++ "/" ++ type ++ "/" ++ value ∧
      ∀ other : String, '/' ∉ other.toList →
        lastThree? (lead ++ "/" ++ other ++ "/" ++ value) = some (podNamespace, other, value) := by
  obtain ⟨leading, hsegments⟩ := lastThree?_eq_some_iff.1 hlast
  obtain ⟨_, hname, hfree⟩ := Text.splitOn_eq_iff.1 hsegments
  have htype : '/' ∉ type.toList := hfree type (by simp)
  have hvalue : '/' ∉ value.toList := hfree value (by simp)
  let lead := String.intercalate "/" (leading ++ [podNamespace])
  have hlead : Text.splitOn '/' lead = leading ++ [podNamespace] := by
    refine Text.splitOn_eq_iff.2 ⟨by simp, rfl, fun segment hsegment => ?_⟩
    apply hfree segment
    rcases List.mem_append.1 hsegment with hleading | hlast
    · exact List.mem_append_left _ hleading
    · exact List.mem_append_right _ (by simp [List.mem_singleton.1 hlast])
  have hsplit (other : String) (hother : '/' ∉ other.toList) :
      Text.splitOn '/' (lead ++ "/" ++ other ++ "/" ++ value) =
        leading ++ [podNamespace, other, value] := by
    calc Text.splitOn '/' (lead ++ "/" ++ other ++ "/" ++ value)
      _ = Text.splitOn '/' (lead ++ "/" ++ other) ++ Text.splitOn '/' value :=
        Text.splitOn_append '/' _ value
      _ = Text.splitOn '/' lead ++ Text.splitOn '/' other ++ Text.splitOn '/' value :=
        congrArg (· ++ Text.splitOn '/' value) (Text.splitOn_append '/' lead other)
      _ = leading ++ [podNamespace, other, value] := by
        rw [hlead, Text.splitOn_of_notMem hother, Text.splitOn_of_notMem hvalue]
        simp
  refine ⟨lead, ?_, fun other hother => lastThree?_eq_some_iff.2 ⟨leading, hsplit other hother⟩⟩
  -- the pieces of both texts are the same
  rw [hname]
  exact (Text.splitOn_eq_iff.1 (hsplit type htype)).2.1.symm

/-- The type in the name of a host can be replaced in its id without moving the other segments. -/
theorem EndsIn.exists_lead {hostId : RoleId} {podNamespace type value : String}
    (hends : EndsIn hostId podNamespace type value) :
    ∃ lead, hostId.text = lead ++ "/" ++ type ++ "/" ++ value ∧ '/' ∉ value.toList ∧
      ∀ other : String, '/' ∉ other.toList → ':' ∉ other.toList →
        EndsIn ⟨lead ++ "/" ++ other ++ "/" ++ value⟩ podNamespace other value := by
  have hvalue : '/' ∉ value.toList := by
    obtain ⟨_, _, hfree⟩ := hends
    exact hfree value (by simp)
  obtain ⟨lead, hname, hreplace⟩ := exists_lead_of_lastThree? (endsIn_iff.1 hends)
  have hwhole : hostId.HasName hostId.name := RoleId.hasName_iff.2 rfl
  obtain ⟨front, htext, hfront⟩ := hwhole.exists_front
  refine ⟨front ++ lead, ?_, hvalue, fun other hslash hcolon => ?_⟩
  · rw [htext, hname]
    simp only [String.append_assoc]
  · have hother : RoleId.HasName ⟨front ++ (lead ++ "/" ++ other ++ "/" ++ value)⟩
        (lead ++ "/" ++ other ++ "/" ++ value) := by
      apply hfront
      -- the new type has no colon, so all colons were there before
      rw [hname]
      simp only [String.toList_append, List.mem_append]
      grind
    have hid : (⟨front ++ lead ++ "/" ++ other ++ "/" ++ value⟩ : RoleId) =
        ⟨front ++ (lead ++ "/" ++ other ++ "/" ++ value)⟩ := by
      simp only [String.append_assoc]
    rw [hid, endsIn_iff, ← RoleId.hasName_iff.1 hother]
    exact hreplace other hslash

/-! ## Spellings with and without the permission -/

/-- An underscored spelling names its own kind only, with the permission. -/
theorem spells_underscored_iff {kind other : KubernetesKind} :
    Spells true kind.underscored other ↔ other = kind := by
  have hself : Spells true kind.underscored kind := .inr ⟨rfl, rfl⟩
  refine ⟨fun hother => hother.unique hself, ?_⟩
  rintro rfl
  exact hself

theorem not_spells_underscored {kind : KubernetesKind} (hkind : kind ∈ KubernetesKind.respelled)
    (other : KubernetesKind) : ¬ Spells false kind.underscored other := by
  rintro (hspelled | ⟨hfalse, _⟩)
  · -- the other kind is the same one, and so both of its spellings are the same
    obtain rfl : other = kind := spells_underscored_iff.1 (.inl hspelled)
    exact KubernetesKind.mem_respelled_iff.1 hkind hspelled
  · cases hfalse

theorem Spells.mono {type : String} {kind : KubernetesKind} (hspells : Spells false type kind) :
    Spells true type kind := by
  rcases hspells with hdash | ⟨hfalse, _⟩
  · exact .inl hdash
  · cases hfalse

/-- What the permission adds to the spellings of a kind. -/
theorem spells_true_iff {type : String} {kind : KubernetesKind} :
    Spells true type kind ↔
      Spells false type kind ∨ kind ∈ KubernetesKind.respelled ∧ type = kind.underscored := by
  constructor
  · rintro (hdash | ⟨_, hunderscored⟩)
    · exact .inl (.inl hdash)
    · by_cases hkind : kind ∈ KubernetesKind.respelled
      · exact .inr ⟨hkind, hunderscored⟩
      · -- both spellings are the same
        rw [KubernetesKind.mem_respelled_iff, Classical.not_not] at hkind
        exact .inl (.inl (hunderscored.trans hkind))
  · rintro (hspells | ⟨_, hunderscored⟩)
    · exact hspells.mono
    · exact .inr ⟨rfl, hunderscored⟩

/-! ## Names that are added -/

/-- The type in the name of a host has an underscore for the dash, and all else is in place. -/
inductive UnderscoredHost (hostId : RoleId) : KubernetesKind → HostIdentifier → Prop where
  | intro {podNamespace value : String} {kind : KubernetesKind}
      (hkind : kind ∈ KubernetesKind.respelled)
      (hends : EndsIn hostId podNamespace kind.underscored value)
      (hnamespace : Given podNamespace) (hvalue : Given value) :
      UnderscoredHost hostId kind ⟨podNamespace, some (kind, value)⟩

section Added

variable {hostId : RoleId} {kind : KubernetesKind} {host : HostIdentifier}

theorem standsFor_true_iff :
    StandsFor true hostId host ↔
      StandsFor false hostId host ∨ ∃ kind, UnderscoredHost hostId kind host := by
  obtain ⟨podNamespace, constraint⟩ := host
  constructor
  · rintro ⟨type, value, hends, hnamespace, hsays⟩
    cases hsays with
    | wildcards => exact .inl ⟨_, _, hends, hnamespace, .wildcards⟩
    | sameNamespace => exact .inl ⟨_, _, hends, hnamespace, .sameNamespace⟩
    | workload hkind hspells hvalue =>
      rcases spells_true_iff.1 hspells with hspells | ⟨hrespelled, rfl⟩
      · exact .inl ⟨_, _, hends, hnamespace, .workload hkind hspells hvalue⟩
      · exact .inr ⟨_, .intro hrespelled hends hnamespace hvalue⟩
  · rintro (⟨type, value, hends, hnamespace, hsays⟩ | ⟨kind, hhost⟩)
    · refine ⟨type, value, hends, hnamespace, ?_⟩
      cases hsays with
      | wildcards => exact .wildcards
      | sameNamespace => exact .sameNamespace
      | workload hkind hspells hvalue => exact .workload hkind hspells.mono hvalue
    · cases hhost with
      | intro hkind hends hnamespace hvalue =>
        have hne : kind ≠ .podNamespace := KubernetesKind.ne_podNamespace_of_respelled hkind
        exact ⟨_, _, hends, hnamespace, .workload hne (.inr ⟨rfl, rfl⟩) hvalue⟩

theorem hasUnknownType_false_iff {type : String} :
    HasUnknownType false hostId type ↔ HasUnknownType true hostId type ∨
      ∃ kind host, UnderscoredHost hostId kind host ∧ type = kind.underscored := by
  constructor
  · rintro ⟨podNamespace, value, hends, hnamespace, htype, hvalue, hnone⟩
    by_cases hspelled : ∃ kind, Spells true type kind
    · obtain ⟨kind, hspells⟩ := hspelled
      rcases spells_true_iff.1 hspells with hspells | ⟨hkind, rfl⟩
      · exact absurd hspells (hnone kind)
      · exact .inr ⟨kind, _, .intro hkind hends hnamespace hvalue, rfl⟩
    · exact .inl ⟨podNamespace, value, hends, hnamespace, htype, hvalue,
        fun kind hspells => hspelled ⟨kind, hspells⟩⟩
  · rintro (⟨podNamespace, value, hends, hnamespace, htype, hvalue, hnone⟩ |
      ⟨kind, host, hhost, rfl⟩)
    · exact ⟨podNamespace, value, hends, hnamespace, htype, hvalue,
        fun kind hspells => hnone kind hspells.mono⟩
    · cases hhost with
      | intro hkind hends hnamespace hvalue =>
        have hgiven : Given kind.underscored := (spells_underscored_iff.2 rfl).given
        exact ⟨_, _, hends, hnamespace, hgiven, hvalue, not_spells_underscored hkind⟩

theorem UnderscoredHost.mem_respelled (hhost : UnderscoredHost hostId kind host) :
    kind ∈ KubernetesKind.respelled := by
  cases hhost with
  | intro hkind _ _ _ => exact hkind

theorem UnderscoredHost.parse_true (hhost : UnderscoredHost hostId kind host) :
    parse true hostId = .ok host :=
  parse_of_standsFor (standsFor_true_iff.2 (.inr ⟨kind, hhost⟩))

theorem UnderscoredHost.parse_false (hhost : UnderscoredHost hostId kind host) :
    parse false hostId = .error (.scopeNotSupported kind.underscored KubernetesKind.spellings) :=
  parse_of_hasUnknownType (hasUnknownType_false_iff.2 (.inr ⟨kind, host, hhost, rfl⟩))

/-- Where an underscored spelling is blamed, nothing else is amiss. -/
theorem exists_underscoredHost (hparse : parse false hostId =
      .error (.scopeNotSupported kind.underscored KubernetesKind.spellings)) :
    ∃ host, UnderscoredHost hostId kind host := by
  rcases hasUnknownType_false_iff.1 (parse_eq_scopeNotSupported_iff.1 hparse) with
    ⟨_, _, _, _, _, _, hnone⟩ | ⟨other, host, hhost, hspelling⟩
  · exact absurd (spells_underscored_iff.2 rfl) (hnone kind)
  · -- no two kinds share a spelling
    obtain rfl : kind = other := by
      apply spells_underscored_iff.1
      rw [← hspelling]
      exact spells_underscored_iff.2 rfl
    exact ⟨host, hhost⟩

/-- Two readings of a name differ only if the permission adds the name. -/
theorem parse_eq_or_underscoredHost (hostId : RoleId) :
    parse true hostId = parse false hostId ∨ ∃ kind host, UnderscoredHost hostId kind host := by
  rcases parse_cases true hostId with ⟨host, hparse, hstands⟩ | ⟨type, hparse, hunknown⟩ | hparse
  · rcases standsFor_true_iff.1 hstands with hstands | ⟨kind, hhost⟩
    · exact .inl (hparse.trans (parse_of_standsFor hstands).symm)
    · exact .inr ⟨kind, host, hhost⟩
  · have hfalse : HasUnknownType false hostId type := hasUnknownType_false_iff.2 (.inl hunknown)
    exact .inl (hparse.trans (parse_of_hasUnknownType hfalse).symm)
  · left
    rw [hparse]
    symm
    obtain ⟨hstands, hunknown⟩ := parse_eq_malformedHostId_iff.1 hparse
    refine parse_eq_malformedHostId_iff.2 ⟨fun host hhost => ?_, fun type htype => ?_⟩
    · exact hstands host (standsFor_true_iff.2 (.inl hhost))
    · rcases hasUnknownType_false_iff.1 htype with htype | ⟨kind, host, hhost, _⟩
      · exact hunknown type htype
      · exact hstands host (standsFor_true_iff.2 (.inr ⟨kind, hhost⟩))

/-- A name that is not blamed for its type is read in the same way. -/
theorem parse_true_eq (hknown : ∀ type, parse false hostId ≠
    .error (.scopeNotSupported type KubernetesKind.spellings)) :
    parse true hostId = parse false hostId := by
  rcases parse_eq_or_underscoredHost hostId with hsame | ⟨kind, host, hhost⟩
  · exact hsame
  · exact absurd hhost.parse_false (hknown _)

/-- With a dash for the underscore, the name stands for the same host and needs no permission. -/
theorem UnderscoredHost.exists_dashed (hhost : UnderscoredHost hostId kind host) :
    ∃ lead value, hostId.text = lead ++ "/" ++ kind.underscored ++ "/" ++ value ∧
      '/' ∉ value.toList ∧
        parse false ⟨lead ++ "/" ++ kind.spelling ++ "/" ++ value⟩ = .ok host := by
  cases hhost with
  | @intro podNamespace value _ hkind hends hnamespace hvalue =>
    have hfree : '/' ∉ kind.spelling.toList ∧ ':' ∉ kind.spelling.toList := by
      cases kind <;> decide
    obtain ⟨lead, htext, hslash, hreplace⟩ := hends.exists_lead
    refine ⟨lead, value, htext, hslash, parse_of_standsFor ?_⟩
    have hsays : Says false podNamespace kind.spelling value (some (kind, value)) :=
      .workload (KubernetesKind.ne_podNamespace_of_respelled hkind) (.inl rfl) hvalue
    exact ⟨_, _, hreplace _ hfree.1 hfree.2, hnamespace, hsays⟩

end Added

end HostIdentifier

/-! ## Roles with and without the permission -/

namespace KubernetesRole

/-- Validation differs only for a role that is read from the name of its host, and whose host is
added by the permission. -/
theorem validate_eq_or_underscoredHost (hostId : RoleId) (annotations : List AnnotationEntry)
    (serviceId : String) (settings : KubernetesSettings) :
    let role : KubernetesRole := ⟨hostId, annotations, serviceId⟩
    let dashesOnly := { settings with acceptUnderscoredHostSegments := false }
    let underscoresToo := { settings with acceptUnderscoredHostSegments := true }
    role.validate dashesOnly = role.validate underscoresToo ∨
      (∀ entry ∈ annotations, ¬ LivesBelow provider entry.name) ∧
        ∃ kind host, HostIdentifier.UnderscoredHost hostId kind host ∧
          role.validate dashesOnly =
            .error (.scopeNotSupported kind.underscored KubernetesKind.spellings) ∧
          ∃ identity, role.validate underscoresToo = .ok identity := by
  intro role dashesOnly underscoresToo
  rcases annotated_or_unannotated annotations with hbelow | hnone
  · -- the name of the host is not read
    have hidentity := identityFrom_congr_of_annotated hbelow hostId hostId serviceId dashesOnly true
    left
    simp only [role, validate, hidentity, dashesOnly, underscoresToo]
  · have hdashes := validate_of_unannotated hostId serviceId dashesOnly hnone
    have hunderscores := validate_of_unannotated hostId serviceId underscoresToo hnone
    rcases HostIdentifier.parse_eq_or_underscoredHost hostId with hsame | ⟨kind, host, hhost⟩
    · left
      rw [hdashes, hunderscores]
      simp only [identityOfHost, dashesOnly, underscoresToo, hsame]
    · refine .inr ⟨hnone, kind, host, hhost, ?_, ?_⟩
      · rw [hdashes, identityOfHost, hhost.parse_false]
        rfl
      · rw [hunderscores, identityOfHost, hhost.parse_true]
        exact ⟨_, rfl⟩

/-- To accept underscores only adds to the names that can be read. A name that can be read without
them is read in the same way, and a malformed one stays malformed. The two readings of a name differ
exactly if the first blames the underscored spelling of a kind that has another one; then the second
finds the host that the name has with a dash for the underscore and nothing else changed. For roles
this means that an identity stays what it is, and that outcomes differ only where no annotation is
below the provider and the blame was put on such a spelling; the role is valid then. -/
theorem underscores_only_add (hostId : RoleId) :
    (∀ host, HostIdentifier.parse false hostId = .ok host →
      HostIdentifier.parse true hostId = .ok host) ∧
    (∀ text, HostIdentifier.parse false hostId = .error (.malformedHostId text) →
      HostIdentifier.parse true hostId = .error (.malformedHostId text)) ∧
    (HostIdentifier.parse false hostId ≠ HostIdentifier.parse true hostId ↔
      ∃ kind ∈ KubernetesKind.respelled, HostIdentifier.parse false hostId =
        .error (.scopeNotSupported kind.underscored KubernetesKind.spellings)) ∧
    (∀ kind ∈ KubernetesKind.respelled, HostIdentifier.parse false hostId =
        .error (.scopeNotSupported kind.underscored KubernetesKind.spellings) →
      ∃ lead value host, hostId.text = lead ++ "/" ++ kind.underscored ++ "/" ++ value ∧
        '/' ∉ value.toList ∧ HostIdentifier.parse true hostId = .ok host ∧
        HostIdentifier.parse false ⟨lead ++ "/" ++ kind.spelling ++ "/" ++ value⟩ = .ok host) ∧
    ∀ (annotations : List AnnotationEntry) (serviceId : String) (settings : KubernetesSettings),
      let role : KubernetesRole := ⟨hostId, annotations, serviceId⟩
      let dashesOnly := { settings with acceptUnderscoredHostSegments := false }
      let underscoresToo := { settings with acceptUnderscoredHostSegments := true }
      (∀ identity, role.validate dashesOnly = .ok identity →
        role.validate underscoresToo = .ok identity) ∧
      (role.validate dashesOnly ≠ role.validate underscoresToo →
        (∀ entry ∈ annotations, ¬ LivesBelow provider entry.name) ∧
        (∃ kind ∈ KubernetesKind.respelled, role.validate dashesOnly =
          .error (.scopeNotSupported kind.underscored KubernetesKind.spellings)) ∧
        ∃ identity, role.validate underscoresToo = .ok identity) := by
  refine ⟨?_, ?_, ⟨?_, ?_⟩, ?_, ?_⟩
  · intro host hparse
    rw [← hparse]
    exact HostIdentifier.parse_true_eq (by simp [hparse])
  · intro text hparse
    rw [← hparse]
    exact HostIdentifier.parse_true_eq (by simp [hparse])
  · intro hne
    rcases HostIdentifier.parse_eq_or_underscoredHost hostId with hsame | ⟨kind, host, hhost⟩
    · exact absurd hsame.symm hne
    · exact ⟨kind, hhost.mem_respelled, hhost.parse_false⟩
  · rintro ⟨kind, _, hparse⟩ hsame
    obtain ⟨host, hhost⟩ := HostIdentifier.exists_underscoredHost hparse
    rw [hhost.parse_false, hhost.parse_true] at hsame
    cases hsame
  · intro kind _ hparse
    obtain ⟨host, hhost⟩ := HostIdentifier.exists_underscoredHost hparse
    obtain ⟨lead, value, htext, hvalue, hdashed⟩ := hhost.exists_dashed
    exact ⟨lead, value, host, htext, hvalue, hhost.parse_true, hdashed⟩
  · intro annotations serviceId settings role dashesOnly underscoresToo
    rcases validate_eq_or_underscoredHost hostId annotations serviceId settings with
      hsame | ⟨hnone, kind, host, hhost, herror, hvalid⟩
    · exact ⟨fun identity hvalid => hsame ▸ hvalid, fun hne => absurd hsame hne⟩
    · refine ⟨fun identity hidentity => ?_, fun _ => ⟨hnone, ⟨kind, hhost.mem_respelled, herror⟩,
        hvalid⟩⟩
      cases herror.symm.trans hidentity

/-- A host whose type has an underscore, behind a segment that has one too, can be read with the
permission only. -/
theorem underscores_of_till :
    HostIdentifier.parse false ⟨"acme:host:old_tills/shop/service_account/till"⟩ ≠
        HostIdentifier.parse true ⟨"acme:host:old_tills/shop/service_account/till"⟩ ∧
      ∃ host, HostIdentifier.parse true ⟨"acme:host:old_tills/shop/service_account/till"⟩ =
        .ok host := by
  have hadds := underscores_only_add ⟨"acme:host:old_tills/shop/service_account/till"⟩
  have hparse : HostIdentifier.parse false ⟨"acme:host:old_tills/shop/service_account/till"⟩ =
      .error (.scopeNotSupported (KubernetesKind.underscored .serviceAccount)
        KubernetesKind.spellings) := by rfl
  have hkind : KubernetesKind.serviceAccount ∈ KubernetesKind.respelled := by decide
  refine ⟨hadds.2.2.1.2 ⟨.serviceAccount, hkind, hparse⟩, ?_⟩
  obtain ⟨_, _, host, _, _, htrue, _⟩ := hadds.2.2.2.1 .serviceAccount hkind hparse
  exact ⟨host, htrue⟩

end KubernetesRole

end WorkloadGuard
