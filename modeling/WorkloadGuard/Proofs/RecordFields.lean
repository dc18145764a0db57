import WorkloadGuard.Json.Format
import WorkloadGuard.Proofs.Outcome

/-!
# Fields of records

A record is read from the members of an object, each of which may be given once. Here the readers
are related to the members as they are listed: `OnlyMember` is the one member of a name, and both
the look-up of a member and the reading of a field find it and nothing else.

## Main statements

- `onlyMember?_eq_some_iff`, `Json.Value.member?_eq_some_iff`: what is found is the only member.
- `onlyMember_iff_mem_of_nodup`: where names are distinct, that is any member of the name.
- `FieldValues.required_eq_ok_iff`, `FieldValues.defaulted_eq_ok_iff`: a field is read from its
  value, or left out if it has a default.
- `RecordShape.ofMembers_of_open`: an open record passes over what it does not know.
-/

namespace WorkloadGuard

open Json (Value)

/-! ## Members -/

/-- One member is called `name`, no other is, and its value is `value`. -/
def OnlyMember {δ : Type} (members : List (String × δ)) (name : String) (value : δ) : Prop :=
  ∃ before after, members = before ++ (name, value) :: after ∧
    ∀ other ∈ before ++ after, other.1 ≠ name

/-- The value is an object with one member called `name`, which is `member`. -/
def Json.Value.HasMember (value : Value) (name : String) (member : Value) : Prop :=
  ∃ members, value = .object members ∧ OnlyMember members name member

section Members

variable {δ : Type} {members : List (String × δ)} {name : String} {value : δ}

theorem filter_eq_singleton_iff_onlyMember :
    (members.filter fun member => member.1 == name) = [(name, value)] ↔
      OnlyMember members name value := by
  rw [List.filter_eq_cons_iff]
  unfold OnlyMember
  refine exists₂_congr fun before after => and_congr_right fun _ => ?_
  simp only [beq_self_eq_true, true_and, List.filter_eq_nil_iff, List.forall_mem_append, beq_iff_eq,
    ne_eq]

theorem name_eq_of_filter_eq_cons {member : String × δ} {rest : List (String × δ)}
    (hfilter : (members.filter fun member => member.1 == name) = member :: rest) :
    member.1 = name := by
  have hmem : member ∈ members.filter fun member => member.1 == name := by
    rw [hfilter]
    exact List.mem_cons_self
  simpa using (List.mem_filter.1 hmem).2

/-- Where names are distinct, the only member of a name is any member of that name. -/
theorem onlyMember_iff_mem_of_nodup (hdistinct : (members.map Prod.fst).Nodup) :
    OnlyMember members name value ↔ (name, value) ∈ members := by
  constructor
  · rintro ⟨before, after, rfl, _⟩
    exact List.mem_append_right _ List.mem_cons_self
  · intro hmem
    obtain ⟨before, after, rfl⟩ := List.append_of_mem hmem
    refine ⟨before, after, rfl, fun other hother heq => ?_⟩
    -- a second member of the name would repeat it
    rw [List.map_append, List.map_cons, List.perm_middle.nodup_iff, ← List.map_append,
      List.nodup_cons] at hdistinct
    have hrepeated : other.1 ∈ (before ++ after).map Prod.fst := List.mem_map_of_mem hother
    rw [heq] at hrepeated
    exact hdistinct.1 hrepeated

/-- A member that is given once has a value, and one that is given twice has none. -/
theorem onlyMember?_eq_some_iff :
    onlyMember? members name = .ok (some value) ↔ OnlyMember members name value := by
  rw [← filter_eq_singleton_iff_onlyMember]
  unfold onlyMember?
  split
  · rename_i hnone
    simp [hnone]
  · rename_i member hsingle
    have hname := name_eq_of_filter_eq_cons hsingle
    simp [hsingle, Prod.ext_iff, hname]
  · rename_i hnone hsingle
    refine iff_of_false nofun ?_
    exact hsingle _

theorem onlyMember?_eq_none_iff :
    onlyMember? members name = .ok none ↔ ∀ member ∈ members, member.1 ≠ name := by
  have hnil : (members.filter fun member => member.1 == name) = [] ↔
      ∀ member ∈ members, member.1 ≠ name := by
    simp only [List.filter_eq_nil_iff, beq_iff_eq, ne_eq]
  rw [← hnil]
  unfold onlyMember?
  split
  · rename_i hnone
    simp [hnone]
  · rename_i member hsingle
    simp [hsingle]
  · rename_i hnone _
    exact iff_of_false nofun hnone

/-- Every member of the name is the only one. -/
theorem OnlyMember.eq_of_mem {other : δ} (h : OnlyMember members name value)
    (hmem : (name, other) ∈ members) : other = value := by
  have hfilter : (name, other) ∈ members.filter fun member => member.1 == name :=
    List.mem_filter.2 ⟨hmem, beq_self_eq_true name⟩
  rw [filter_eq_singleton_iff_onlyMember.2 h, List.mem_singleton, Prod.mk.injEq] at hfilter
  exact hfilter.2

/-- Looking a member up is reading a field that may be at fault. -/
theorem Json.Value.member?_object (members : List (String × Value)) (name : String) :
    (Value.object members).member? name = (onlyMember? members name).toOption.join := by
  simp only [Value.member?, onlyMember?]
  -- the name is given never, once, or more than once
  generalize (members.filter fun member => member.1 == name) = found
  rcases found with _ | ⟨member, _ | ⟨other, rest⟩⟩
  · rfl
  · rfl
  · rfl

theorem Json.Value.member?_eq_some_iff {payload member : Value} :
    payload.member? name = some member ↔ payload.HasMember name member := by
  unfold Value.HasMember
  cases payload with
  | object members =>
    rw [Value.member?_object, Option.join_eq_some_iff, Outcome.toOption_eq_some_iff,
      onlyMember?_eq_some_iff]
    simp
  | _ => simp [Value.member?]

end Members

/-! ## Fields -/

theorem Json.Value.toText_eq_ok_iff {value : Value} {text : String} :
    value.toText = .ok text ↔ value = .string text := by
  cases value <;> simp [Value.toText]

theorem Json.Value.toFlag_eq_ok_iff {value : Value} {flag : Bool} :
    value.toFlag = .ok flag ↔ value = .bool flag := by
  cases value <;> simp [Value.toFlag]

theorem FieldValues.required_eq_ok_iff {δ α : Type} {fields : FieldValues δ} {name : String}
    {decode : δ → Except DecodeError α} {a : α} :
    fields.required name decode = .ok a ↔
      ∃ value, fields name = .ok (some value) ∧ decode value = .ok a := by
  unfold FieldValues.required
  rw [Outcome.bind_eq_ok_iff]
  constructor
  · intro h
    obtain ⟨found, hfound, hdecode⟩ := h
    cases found with
    | none => cases hdecode
    | some value => exact ⟨value, hfound, hdecode⟩
  · intro h
    obtain ⟨value, hvalue, hdecode⟩ := h
    exact ⟨some value, hvalue, hdecode⟩

theorem FieldValues.defaulted_eq_ok_iff {δ α : Type} {fields : FieldValues δ} {name : String}
    {default a : α} {decode : δ → Except DecodeError α} :
    fields.defaulted name default decode = .ok a ↔
      (∃ value, fields name = .ok (some value) ∧ decode value = .ok a) ∨
        fields name = .ok none ∧ a = default := by
  unfold FieldValues.defaulted
  rw [Outcome.bind_eq_ok_iff]
  constructor
  · intro h
    obtain ⟨found, hfound, hdecode⟩ := h
    cases found with
    | none => exact .inr ⟨hfound, (Except.ok.inj hdecode).symm⟩
    | some value => exact .inl ⟨value, hfound, hdecode⟩
  · intro h
    rcases h with ⟨value, hvalue, hdecode⟩ | ⟨hnone, rfl⟩
    · exact ⟨some value, hvalue, hdecode⟩
    · exact ⟨none, hnone, rfl⟩

/-- An open record is read from any members. -/
theorem RecordShape.ofMembers_of_open {δ : Type} {shape : RecordShape}
    (hopen : shape.closed = false) (members : List (String × δ)) :
    shape.ofMembers members = .ok (onlyMember? members) := by
  have hnone : (members.find? fun member =>
      shape.closed && !shape.fields.contains member.1) = none := by
    simp [hopen]
  rw [ofMembers, hnone]

end WorkloadGuard
