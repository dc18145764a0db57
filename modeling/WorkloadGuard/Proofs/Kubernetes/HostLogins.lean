import WorkloadGuard.Proofs.Kubernetes.HostNames

/-!
# The roles of logins

A login is turned into the id of a role by joining account, kind and name with colons, and the id is
taken apart again by whoever asks for its kind or for the name of its host. The parts may hold
colons and slashes themselves. Here it is shown that this does no harm: as long as no account has a
colon, different logins have different roles, and the parts that are read are those that were
joined. So the account has no say in what the name of a host declares, and neither do segments in
front of the last three.

## Main statements

- `RoleId.hasName_ofLogin`: the name of a role is the one that the login gave it.
- `RoleId.ofLogin_injective`: within one account, no two logins share a role.
- `HostIdentifier.sameReading_of_lastThree`: hosts with the same last segments are read alike.
- `RoleId.logins_share_no_role`: the roles of all logins, and what hosts declare by their names.
-/

namespace WorkloadGuard

/-! ## Names of logins -/

/-- The kind and the name that a login has in the id of its role. -/
inductive LoginNames : String → String → String → Prop where
  | host (name : String) : LoginNames ("host/" ++ name) "host" name
  | user {username : String} (huser : ∀ name, username ≠ "host/" ++ name) :
      LoginNames username "user" username

namespace LoginNames

theorem exists_names (username : String) : ∃ kind name, LoginNames username kind name := by
  by_cases hhost : ∃ name, username = "host/" ++ name
  · obtain ⟨name, rfl⟩ := hhost
    exact ⟨_, _, .host name⟩
  · exact ⟨_, _, .user fun name hname => hhost ⟨name, hname⟩⟩

variable {username login kind name : String}

theorem username_eq (hnames : LoginNames username kind name) :
    username = if kind = "host" then "host/" ++ name else name := by
  cases hnames with
  | host name => rw [if_pos rfl]
  | user _ => rw [if_neg (by decide)]

/-- A login is known by its kind and its name. -/
theorem login_eq (hnames : LoginNames username kind name) (hother : LoginNames login kind name) :
    username = login := by
  rw [hnames.username_eq, hother.username_eq]

theorem colon_notMem_kind (hnames : LoginNames username kind name) : ':' ∉ kind.toList := by
  cases hnames with
  | host _ => decide
  | user _ => decide

theorem cut?_names (hnames : LoginNames username kind name) :
    Text.cut? ':' (kind ++ ":" ++ name) = some (kind, name) :=
  Text.cut?_eq_some_iff.2 ⟨rfl, hnames.colon_notMem_kind⟩

end LoginNames

/-! ## Ids of roles -/

namespace RoleId

section Names

variable {account username kind name : String}

theorem text_ofLogin (hnames : LoginNames username kind name) :
    (ofLogin account username).text = account ++ ":" ++ (kind ++ ":" ++ name) := by
  unfold ofLogin
  cases hnames with
  | host name =>
    rw [Text.dropLead?_eq_some_iff_append.2 rfl]
    apply String.toList_inj.1
    simp
  | user huser =>
    have hnone : Text.dropLead? "host/" username = none := by
      rw [Option.eq_none_iff_forall_ne_some]
      intro name hname
      exact huser name (Text.dropLead?_eq_some_iff_append.1 hname)
    rw [hnone]
    apply String.toList_inj.1
    simp

theorem cut?_ofLogin (haccount : ':' ∉ account.toList) (hnames : LoginNames username kind name) :
    Text.cut? ':' (ofLogin account username).text = some (account, kind ++ ":" ++ name) :=
  Text.cut?_eq_some_iff.2 ⟨text_ofLogin hnames, haccount⟩

theorem kind?_ofLogin (haccount : ':' ∉ account.toList) (hnames : LoginNames username kind name) :
    (ofLogin account username).kind? = some kind := by
  simp [kind?, cut?_ofLogin haccount hnames, hnames.cut?_names]

/-- The name of a role is the one that the login gave it, colons and all. -/
theorem hasName_ofLogin (haccount : ':' ∉ account.toList) (hnames : LoginNames username kind name) :
    (ofLogin account username).HasName name :=
  .afterSecond (text_ofLogin hnames) haccount hnames.colon_notMem_kind

end Names

/-- Within one account, whatever its name is, no two logins share a role. -/
theorem ofLogin_injective (account : String) : Function.Injective (ofLogin account) := by
  intro username login heq
  obtain ⟨kind, name, hnames⟩ := LoginNames.exists_names username
  obtain ⟨kind', name', hnames'⟩ := LoginNames.exists_names login
  -- what follows the account is the same, and a kind has no colon in which it could be cut
  have hrest : kind ++ ":" ++ name = kind' ++ ":" ++ name' := by
    have htext := congrArg RoleId.text heq
    rw [text_ofLogin hnames, text_ofLogin hnames'] at htext
    apply String.toList_inj.1
    simpa using congrArg String.toList htext
  have hcut := hnames.cut?_names
  rw [hrest, hnames'.cut?_names] at hcut
  cases hcut
  exact hnames.login_eq hnames'

theorem account_eq_of_ofLogin_eq {account other username login : String}
    (haccount : ':' ∉ account.toList) (hother : ':' ∉ other.toList)
    (heq : ofLogin account username = ofLogin other login) : account = other := by
  obtain ⟨_, _, hnames⟩ := LoginNames.exists_names username
  obtain ⟨_, _, hnames'⟩ := LoginNames.exists_names login
  have hcut := cut?_ofLogin haccount hnames
  rw [heq, cut?_ofLogin hother hnames'] at hcut
  exact (Prod.mk.inj (Option.some.inj hcut)).1.symm

end RoleId

/-! ## Names of hosts -/

namespace HostIdentifier

/-- Two hosts are read alike: they stand for the same workload, or the same type is blamed, or both
ids are malformed. -/
inductive SameReading (acceptUnderscored : Bool) (a b : RoleId) : Prop where
  | host {host : HostIdentifier} (ha : parse acceptUnderscored a = .ok host)
      (hb : parse acceptUnderscored b = .ok host)
  | unknownType {type : String}
      (ha : parse acceptUnderscored a = .error (.scopeNotSupported type KubernetesKind.spellings))
      (hb : parse acceptUnderscored b = .error (.scopeNotSupported type KubernetesKind.spellings))
  | malformed (ha : parse acceptUnderscored a = .error (.malformedHostId a.text))
      (hb : parse acceptUnderscored b = .error (.malformedHostId b.text))

/-- Of a host nothing is read but the last three segments of its name. -/
theorem sameReading_of_lastThree {a b : RoleId} (acceptUnderscored : Bool)
    (hlast : lastThree? a.name = lastThree? b.name) : SameReading acceptUnderscored a b := by
  have hends (podNamespace type value : String) :
      EndsIn a podNamespace type value ↔ EndsIn b podNamespace type value := by
    rw [endsIn_iff, endsIn_iff, hlast]
  have hstands (host : HostIdentifier) :
      StandsFor acceptUnderscored a host ↔ StandsFor acceptUnderscored b host := by
    simp only [StandsFor, hends]
  have hunknown (type : String) :
      HasUnknownType acceptUnderscored a type ↔ HasUnknownType acceptUnderscored b type := by
    simp only [HasUnknownType, hends]
  rcases parse_cases acceptUnderscored a with ⟨host, hparse, h⟩ | ⟨type, hparse, h⟩ | hparse
  · exact .host hparse (parse_of_standsFor ((hstands host).1 h))
  · exact .unknownType hparse (parse_of_hasUnknownType ((hunknown type).1 h))
  · refine .malformed hparse ?_
    rw [parse_eq_malformedHostId_iff] at hparse ⊢
    simpa only [hstands, hunknown] using hparse

/-- Segments in front of three others do not count. -/
theorem lastThree?_append {rest : String} (hrest : 3 ≤ (Text.splitOn '/' rest).length)
    (leading : String) : lastThree? (leading ++ "/" ++ rest) = lastThree? rest := by
  have hsplit : Text.splitOn '/' (leading ++ "/" ++ rest) =
      Text.splitOn '/' leading ++ Text.splitOn '/' rest :=
    Text.splitOn_append '/' leading rest
  unfold lastThree?
  rw [hsplit, List.reverse_append]
  rw [← List.length_reverse] at hrest
  -- three segments are found before those of `leading` are reached
  match (Text.splitOn '/' rest).reverse, hrest with
  | _ :: _ :: _ :: _, _ => rfl

end HostIdentifier

/-! ## Logins apart -/

namespace RoleId

/-- Logins do not share roles, unless an account has a colon; and within one account they do not in
any case. For accounts without a colon, the kind of a role says whether the login is one of a host,
and what the name of a host declares does not depend on the account, nor on segments in front of the
last three. -/
theorem logins_share_no_role :
    (∀ account other username login, ofLogin account username = ofLogin other login →
      (account, username) = (other, login) ∨ ':' ∈ account.toList ∨ ':' ∈ other.toList) ∧
    (∀ account, Function.Injective (ofLogin account)) ∧
    ∀ account, ':' ∉ account.toList →
      (∀ username,
        ((∃ name, username = "host/" ++ name) → (ofLogin account username).kind? = some "host") ∧
        ((¬ ∃ name, username = "host/" ++ name) →
          (ofLogin account username).kind? = some "user")) ∧
      ∀ other, ':' ∉ other.toList → ∀ acceptUnderscored rest,
        HostIdentifier.SameReading acceptUnderscored (ofLogin account ("host/" ++ rest))
            (ofLogin other ("host/" ++ rest)) ∧
          (3 ≤ (Text.splitOn '/' rest).length → ∀ leading,
            HostIdentifier.SameReading acceptUnderscored (ofLogin account ("host/" ++ rest))
              (ofLogin other ("host/" ++ (leading ++ "/" ++ rest)))) := by
  refine ⟨?_, ofLogin_injective, ?_⟩
  · intro account other username login heq
    by_cases haccount : ':' ∈ account.toList
    · exact .inr (.inl haccount)
    by_cases hother : ':' ∈ other.toList
    · exact .inr (.inr hother)
    have hsame : account = other := account_eq_of_ofLogin_eq haccount hother heq
    subst hsame
    exact .inl (congrArg (Prod.mk account) (ofLogin_injective account heq))
  · intro account haccount
    refine ⟨fun username => ⟨?_, ?_⟩, ?_⟩
    · rintro ⟨name, rfl⟩
      exact kind?_ofLogin haccount (.host name)
    · intro huser
      exact kind?_ofLogin haccount (.user fun name hname => huser ⟨name, hname⟩)
    · intro other hother acceptUnderscored rest
      have hname {id : String} (hid : ':' ∉ id.toList) (name : String) :
          (ofLogin id ("host/" ++ name)).name = name :=
        (hasName_iff.1 (hasName_ofLogin hid (.host name))).symm
      refine ⟨?_, fun hrest leading => ?_⟩
      · apply HostIdentifier.sameReading_of_lastThree
        rw [hname haccount, hname hother]
      · apply HostIdentifier.sameReading_of_lastThree
        rw [hname haccount, hname hother, HostIdentifier.lastThree?_append hrest]

/-- A host with a colon in its name is read alike for two accounts and behind a leading segment, and
the colon does not make a login of one account a login of the other. -/
theorem logins_of_till :
    HostIdentifier.SameReading true (ofLogin "acme" "host/shop/pod/till:1")
        (ofLogin "mall" "host/tills/shop/pod/till:1") ∧
      ofLogin "acme" "host/shop/pod/till:1" ≠ ofLogin "mall" "host/shop/pod/till:1" := by
  have hlogins := logins_share_no_role
  refine ⟨?_, fun heq => ?_⟩
  · exact ((hlogins.2.2 "acme" (by decide)).2 "mall" (by decide) true "shop/pod/till:1").2
      (by decide) "tills"
  · rcases hlogins.1 _ _ _ _ heq with hsame | hcolon
    · exact absurd hsame (by decide)
    · exact absurd hcolon (by decide)

end RoleId

end WorkloadGuard
