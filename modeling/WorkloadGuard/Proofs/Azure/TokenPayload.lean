import WorkloadGuard.Proofs.Azure.TokenIdentity
import WorkloadGuard.Proofs.RecordFields
import WorkloadGuard.Request.Document

/-!
# Claims of a token's payload

The claims of a token can be taken from its payload in two ways: looked up one by one, where each
must be a text that is not empty, or read as a record, where any text will do. Here both are related
to the members of the payload and so to each other. What is looked up is what is read, and what is
read is looked up as long as no claim is empty; of several claims at fault the path is blamed first.

## Main statements

- `TokenClaims.claimOf_eq_ok_iff`, `TokenClaims.claimOf_eq_error_iff`: what looking one claim up
  gives.
- `TokenClaims.ofJson_object_eq_ok_iff`: what reading an object as a record gives.
- `TokenClaims.ofPayload_agrees_with_ofJson`: both ways compared.
-/

namespace WorkloadGuard

open Json (Value)

/-- A path that cannot be read is malformed or lacks its provider, and no claim is missing. -/
theorem ResourcePath.parse_ne_tokenFieldMissing {claim field : String} :
    parse claim ≠ .error (.tokenFieldMissing field) := by
  intro herror
  unfold parse at herror
  split at herror
  · cases herror
  · split at herror
    · cases herror
    · cases herror

namespace TokenClaims

variable {payload : Value} {claims : TokenClaims} {field text : String} {error : RestrictionError}

/-! ## Claims that are looked up -/

/-- The payload has one member for a claim, a text that is not empty. -/
def GivesText (payload : Value) (field text : String) : Prop :=
  payload.HasMember field (.string text) ∧ text ≠ ""

theorem claimOf_eq_ok_iff : claimOf payload field = .ok text ↔ GivesText payload field text := by
  unfold GivesText
  rw [← Value.member?_eq_some_iff]
  unfold claimOf
  split
  · rename_i given hmember
    rw [hmember, Option.some.injEq, Value.string.injEq]
    split
    · rename_i hempty
      exact iff_of_false nofun (fun h => h.2 (h.1.symm.trans hempty))
    · rename_i hgiven
      rw [Except.ok.injEq]
      exact ⟨fun h => ⟨h, h ▸ hgiven⟩, And.left⟩
  · rename_i hother
    exact iff_of_false nofun (fun h => hother _ h.1)

theorem eq_tokenFieldMissing_of_claimOf (herror : claimOf payload field = .error error) :
    error = .tokenFieldMissing field := by
  unfold claimOf at herror
  split at herror
  · split at herror
    · exact (Except.error.inj herror).symm
    · cases herror
  · exact (Except.error.inj herror).symm

/-- A claim that is no text, or an empty one, is missing. -/
theorem claimOf_eq_error_iff :
    claimOf payload field = .error error ↔
      (∀ text, ¬ GivesText payload field text) ∧ error = .tokenFieldMissing field := by
  simp only [← claimOf_eq_ok_iff]
  cases hclaim : claimOf payload field with
  | ok text => simp
  | error cause => simp [eq_tokenFieldMissing_of_claimOf hclaim, eq_comm]

theorem ofPayload_eq_ok_iff :
    ofPayload payload = .ok claims ↔
      GivesText payload "xms_mirid" claims.resourcePath ∧
        GivesText payload "oid" claims.objectId := by
  simp only [ofPayload, Outcome.bind_eq_ok_iff, Outcome.pure_eq_ok_iff, claimOf_eq_ok_iff]
  constructor
  · intro h
    obtain ⟨_, hpath, _, hid, rfl⟩ := h
    exact ⟨hpath, hid⟩
  · intro h
    exact ⟨_, h.1, _, h.2, rfl⟩

/-- The path is looked up first, so it is blamed even if the object id is at fault too. -/
theorem ofPayload_eq_error_iff :
    ofPayload payload = .error error ↔
      (∀ text, ¬ GivesText payload "xms_mirid" text) ∧ error = .tokenFieldMissing "xms_mirid" ∨
        (∃ text, GivesText payload "xms_mirid" text) ∧
          (∀ text, ¬ GivesText payload "oid" text) ∧ error = .tokenFieldMissing "oid" := by
  simp only [ofPayload, Outcome.bind_eq_error_iff, claimOf_eq_ok_iff, claimOf_eq_error_iff]
  refine or_congr Iff.rfl ⟨?_, ?_⟩
  · intro h
    obtain ⟨text, hpath, hid | ⟨_, _, hpure⟩⟩ := h
    · exact ⟨⟨text, hpath⟩, hid⟩
    · cases hpure
  · intro h
    obtain ⟨⟨text, hpath⟩, hid⟩ := h
    exact ⟨text, hpath, .inl hid⟩

/-! ## Claims that are read -/

/-- Of an object, the two claims are read and all other members are passed over. -/
theorem ofJson_object_eq_ok_iff {members : List (String × Value)} :
    ofJson (.object members) = .ok claims ↔
      OnlyMember members "xms_mirid" (.string claims.resourcePath) ∧
        OnlyMember members "oid" (.string claims.objectId) := by
  have hfields : (Value.object members).toFields shape = .ok (onlyMember? members) :=
    RecordShape.ofMembers_of_open rfl members
  simp only [ofJson, hfields, Outcome.bind_eq_ok_iff, Outcome.pure_eq_ok_iff, Except.ok.injEq,
    exists_eq_left', FieldValues.required_eq_ok_iff, onlyMember?_eq_some_iff,
    Value.toText_eq_ok_iff, exists_eq_right]
  constructor
  · intro h
    obtain ⟨_, hpath, _, hid, rfl⟩ := h
    exact ⟨hpath, hid⟩
  · intro h
    exact ⟨_, h.1, _, h.2, rfl⟩

/-! ## Both ways compared -/

/-- A token with an object id is never at fault for a claim. -/
theorem observed_ne_tokenFieldMissing (hid : claims.objectId ≠ "") (field : String) :
    claims.observed ≠ .error (.tokenFieldMissing field) := by
  intro herror
  cases hparse : ResourcePath.parse claims.resourcePath with
  | error cause =>
    rw [observed_of_parse_eq_error hparse, Except.error.injEq] at herror
    rw [herror] at hparse
    exact ResourcePath.parse_ne_tokenFieldMissing hparse
  | ok path =>
    obtain ⟨name, hname⟩ := ResourcePath.exists_resourceName?_of_parse hparse
    have hidentity := (observed_eq_error_iff hparse).1 herror
    exact hid ((identity_eq_error_iff hname).1 hidentity).2.1

/-- Looking the claims of a payload up succeeds exactly if it is an object that gives both as texts
that are not empty, whatever its other members are, and then reading the payload as a record gives
the same claims. What can be read from an object is looked up if neither claim is empty. All else is
a missing claim: the path, unless the payload gives it, and otherwise the object id. Once the claims
are looked up, no claim is missing when the token is compared with a role. -/
theorem ofPayload_agrees_with_ofJson (payload : Value) :
    (∀ claims, ofPayload payload = .ok claims ↔
      GivesText payload "xms_mirid" claims.resourcePath ∧
        GivesText payload "oid" claims.objectId) ∧
    (∀ claims, ofPayload payload = .ok claims → ofJson payload = .ok claims) ∧
    (∀ members, payload = .object members → ∀ claims, ofJson payload = .ok claims →
      claims.resourcePath ≠ "" → claims.objectId ≠ "" → ofPayload payload = .ok claims) ∧
    (∀ error, ofPayload payload = .error error ↔
      (∀ text, ¬ GivesText payload "xms_mirid" text) ∧ error = .tokenFieldMissing "xms_mirid" ∨
        (∃ text, GivesText payload "xms_mirid" text) ∧
          (∀ text, ¬ GivesText payload "oid" text) ∧ error = .tokenFieldMissing "oid") ∧
    ∀ claims, ofPayload payload = .ok claims →
      ∀ field, claims.observed ≠ .error (.tokenFieldMissing field) := by
  refine ⟨fun _ => ofPayload_eq_ok_iff, ?_, ?_, fun _ => ofPayload_eq_error_iff, ?_⟩
  · intro claims hclaims
    obtain ⟨⟨⟨members, rfl, hpath⟩, _⟩, ⟨⟨_, hsame, hid⟩, _⟩⟩ := ofPayload_eq_ok_iff.1 hclaims
    cases hsame
    exact ofJson_object_eq_ok_iff.2 ⟨hpath, hid⟩
  · intro members hobject claims hclaims hpath hid
    subst hobject
    obtain ⟨hpathMember, hidMember⟩ := ofJson_object_eq_ok_iff.1 hclaims
    exact ofPayload_eq_ok_iff.2
      ⟨⟨⟨members, rfl, hpathMember⟩, hpath⟩, ⟨members, rfl, hidMember⟩, hid⟩
  · intro claims hclaims field
    exact observed_ne_tokenFieldMissing (ofPayload_eq_ok_iff.1 hclaims).2.2 field

/-- A payload with an audience beside the claims gives the same claims in both ways, and the token
is not blamed for a missing claim although its path is none. -/
theorem ofPayload_of_till :
    let payload : Value := .object
      [("oid", .string "till"), ("aud", .texts ["shop"]), ("xms_mirid", .string "subscriptions")]
    let claims : TokenClaims := ⟨"subscriptions", "till"⟩
    ofPayload payload = .ok claims ∧ ofJson payload = .ok claims ∧
      claims.observed ≠ .error (.tokenFieldMissing "oid") := by
  intro payload claims
  obtain ⟨_, hread, hlookedUp, _, hobserved⟩ := ofPayload_agrees_with_ofJson payload
  have hjson : ofJson payload = .ok claims := by rfl
  have hclaims : ofPayload payload = .ok claims :=
    hlookedUp _ rfl claims hjson (by decide) (by decide)
  exact ⟨hclaims, hread claims hclaims, hobserved claims hclaims "oid"⟩

end TokenClaims

end WorkloadGuard
