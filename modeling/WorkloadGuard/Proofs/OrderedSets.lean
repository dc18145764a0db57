import Mathlib.Data.List.Dedup
import Std.Data.TreeMap
import WorkloadGuard.Kind.Azure
import WorkloadGuard.Proofs.FirstDifference

/-!
# Sets as ordered maps

A set is a function on the kinds of a provider, and whatever lists it walks through the table of all
kinds. Here it is shown to be the ordered map that it stands for. The map is filled by the same
inserts, its keys are ordered as the kinds are declared, and it holds and lists what the set does.
There is one listing of a set whose kinds are in that order, so a list of specs is the listing of
the set collected from it exactly if its own kinds are in that order.

## Main statements

- `ConstraintKind.pairwise_listedBefore_all`: the table has an order without repeats.
- `ResourceSet.eq_toSpecs_iff`: what is listed in that order is listed in one way only.
- `ResourceSet.size_ofSpecs`: a set has one value for each kind that occurs in the list.
- `ResourceSet.Represents.insert`, `ResourceSet.represents_insertMany`: one insert into a set and an
  ordered map, and all of them.
- `ResourceSet.collected_is_ordered_map`: what is collected from a list of specs.
-/

namespace WorkloadGuard

/-! ## The order of the kinds -/

namespace ConstraintKind

variable {K : Type} [DecidableEq K] [ConstraintKind K]

/-- The table of all kinds lists `a` before `b`. -/
def ListedBefore (a b : K) : Prop :=
  (all : List K).idxOf a < (all : List K).idxOf b

theorem ListedBefore.ne {a b : K} (h : ListedBefore a b) : a ≠ b := by
  rintro rfl
  exact Nat.lt_irrefl _ h

theorem pairwise_listedBefore_all : (all : List K).Pairwise ListedBefore := by
  rw [List.pairwise_iff_getElem]
  intro i j hi hj hij
  rw [ListedBefore, nodup_all.idxOf_getElem, nodup_all.idxOf_getElem]
  exact hij

theorem eq_of_idxOf_eq {a b : K} (h : (all : List K).idxOf a = (all : List K).idxOf b) : a = b :=
  (List.idxOf_inj (mem_all a)).1 h

/-- Kinds are compared by their places in the table of all kinds. -/
class TableOrder (K : Type) [DecidableEq K] [ConstraintKind K] [Ord K] : Prop where
  compare_eq (a b : K) : compare a b = compare ((all : List K).idxOf a) ((all : List K).idxOf b)

section TableOrder

variable [Ord K] [TableOrder K]

theorem compare_eq_compareOn :
    (compare : K → K → Ordering) = compareOn fun kind => (all : List K).idxOf kind := by
  funext a b
  exact TableOrder.compare_eq a b

instance : Std.TransOrd K := by
  unfold Std.TransOrd
  rw [compare_eq_compareOn]
  infer_instance

instance : Std.LawfulEqOrd K where
  eq_of_compare {a b} h := by
    rw [TableOrder.compare_eq, Nat.compare_eq_eq] at h
    exact eq_of_idxOf_eq h

theorem compare_eq_lt_iff {a b : K} : compare a b = .lt ↔ ListedBefore a b := by
  rw [TableOrder.compare_eq, Nat.compare_eq_lt, ListedBefore]

end TableOrder

end ConstraintKind

/-! Kinds compare as they are declared, and both tables list them in that order. -/

deriving instance Ord for KubernetesKind, AzureKind

instance : ConstraintKind.TableOrder KubernetesKind where
  compare_eq a b := by cases a <;> cases b <;> rfl

instance : ConstraintKind.TableOrder AzureKind where
  compare_eq a b := by cases a <;> cases b <;> rfl

/-! ## Lists of specs -/

/-- Where no two specs share a kind, each of them is the last of its kind. -/
theorem lastValue_iff_mem_of_pairwise {K : Type} {specs : List (K × String)} {kind : K}
    {value : String} (hdistinct : specs.Pairwise fun a b => a.1 ≠ b.1) :
    LastValue specs kind value ↔ (kind, value) ∈ specs := by
  constructor
  · rintro ⟨before, after, rfl, _⟩
    exact List.mem_append_right _ List.mem_cons_self
  · intro hmem
    obtain ⟨before, after, rfl⟩ := List.append_of_mem hmem
    have hafter := (List.pairwise_cons.1 (List.pairwise_append.1 hdistinct).2.1).1
    exact ⟨before, after, rfl, fun spec hspec => (hafter spec hspec).symm⟩

namespace ResourceSet

open ConstraintKind (ListedBefore)

/-! ## What a collected set holds -/

theorem contains_iff {K : Type} {set : ResourceSet K} {kind : K} :
    set.contains kind = true ↔ ∃ value, set.get? kind = some value :=
  Option.isSome_iff_exists

variable {K : Type} [DecidableEq K] {specs : List (K × String)} {set : ResourceSet K} {kind : K}

theorem get?_ofSpecs_eq_none_iff :
    (ofSpecs specs).get? kind = none ↔ ∀ spec ∈ specs, spec.1 ≠ kind := by
  rw [get?_ofSpecs, Option.map_eq_none_iff, List.find?_eq_none]
  simp only [List.mem_reverse, beq_iff_eq, ne_eq]

theorem ofSpecs_eq_ofSpecs_iff {a b : List (K × String)} :
    ofSpecs a = ofSpecs b ↔ ∀ kind value, LastValue a kind value ↔ LastValue b kind value := by
  rw [ResourceSet.ext_iff, funext_iff]
  refine forall_congr' fun kind => ?_
  rw [Option.ext_iff]
  exact forall_congr' fun value => by rw [get?_ofSpecs_eq_some_iff, get?_ofSpecs_eq_some_iff]

variable [ConstraintKind K]

/-! ## How a set is listed -/

theorem mem_kinds : kind ∈ set.kinds ↔ ∃ value, set.get? kind = some value := by
  rw [kinds, List.mem_filter, contains_iff]
  exact and_iff_right (ConstraintKind.mem_all kind)

theorem kinds_sublist_all : set.kinds.Sublist ConstraintKind.all :=
  List.filter_sublist

theorem pairwise_kinds : set.kinds.Pairwise ListedBefore :=
  ConstraintKind.pairwise_listedBefore_all.sublist kinds_sublist_all

theorem map_fst_toSpecs : set.toSpecs.map Prod.fst = set.kinds := by
  rw [toSpecs, kinds, List.map_filterMap, ← List.filterMap_eq_filter]
  congr 1
  funext kind
  cases hvalue : set.get? kind with
  | none => simp [contains, Option.guard, hvalue]
  | some value => simp [contains, Option.guard, hvalue]

theorem pairwise_toSpecs : set.toSpecs.Pairwise fun a b => ListedBefore a.1 b.1 := by
  rw [← List.pairwise_map, map_fst_toSpecs]
  exact pairwise_kinds

/-- A list is what a set lists exactly if its kinds are in the order of the table and it has the
specs of the set. -/
theorem eq_toSpecs_iff :
    specs = set.toSpecs ↔ (specs.Pairwise fun a b => ListedBefore a.1 b.1) ∧
      ∀ spec, spec ∈ specs ↔ set.get? spec.1 = some spec.2 := by
  have hnodup {list : List (K × String)} (h : list.Pairwise fun a b => ListedBefore a.1 b.1) :
      list.Nodup :=
    h.imp fun hbefore heq => hbefore.ne (congrArg Prod.fst heq)
  constructor
  · rintro rfl
    exact ⟨pairwise_toSpecs, fun _ => mem_toSpecs⟩
  · rintro ⟨hordered, hmem⟩
    -- two lists in one order that have the same members
    refine List.Perm.eq_of_pairwise ?_ hordered pairwise_toSpecs ?_
    · intro a b _ _ hab hba
      exact absurd hba (Nat.lt_asymm hab)
    · rw [List.perm_ext_iff_of_nodup (hnodup hordered) (hnodup pairwise_toSpecs)]
      intro spec
      rw [hmem, mem_toSpecs]

theorem toSpecs_ofSpecs_eq_iff :
    (ofSpecs specs).toSpecs = specs ↔ specs.Pairwise fun a b => ListedBefore a.1 b.1 := by
  rw [eq_comm, eq_toSpecs_iff]
  refine and_iff_left_of_imp fun hordered spec => ?_
  rw [get?_ofSpecs_eq_some_iff, lastValue_iff_mem_of_pairwise (hordered.imp ListedBefore.ne)]

theorem mem_kinds_ofSpecs : kind ∈ (ofSpecs specs).kinds ↔ ∃ spec ∈ specs, spec.1 = kind := by
  rw [mem_kinds, ← Option.ne_none_iff_exists', ne_eq, get?_ofSpecs_eq_none_iff]
  simp only [ne_eq, not_forall, Classical.not_not, exists_prop]

/-- A set has one value for each kind that occurs in its list. -/
theorem size_ofSpecs : (ofSpecs specs).size = (specs.map Prod.fst).dedup.length := by
  have hkinds : (ofSpecs specs).kinds.Nodup := pairwise_kinds.imp ListedBefore.ne
  apply List.Perm.length_eq
  rw [List.perm_ext_iff_of_nodup hkinds (List.nodup_dedup _)]
  intro kind
  rw [mem_kinds_ofSpecs, List.mem_dedup, List.mem_map]

theorem isEmpty_ofSpecs : (ofSpecs specs).isEmpty = true ↔ specs = [] := by
  rw [isEmpty, List.isEmpty_iff, List.eq_nil_iff_forall_not_mem, List.eq_nil_iff_forall_not_mem]
  simp only [mem_kinds_ofSpecs, not_exists, not_and]
  exact ⟨fun h spec hspec => h spec.1 spec hspec rfl, fun h _ spec hspec => absurd hspec (h spec)⟩

/-! ## Ordered maps -/

section OrderedMaps

variable [Ord K] {map : Std.TreeMap K String}

/-- An ordered map holds what the set holds. -/
def Represents (map : Std.TreeMap K String) (set : ResourceSet K) : Prop :=
  ∀ kind, map[kind]? = set.get? kind

variable [ConstraintKind.TableOrder K]

theorem Represents.insert (h : Represents map set) (kind : K) (value : String) :
    Represents (map.insert kind value) (set.insert kind value) := by
  intro other
  rw [Std.TreeMap.getElem?_insert, get?_insert, h other]
  simp only [Std.compare_eq_iff_eq, eq_comm (a := kind)]

theorem represents_insertMany (specs : List (K × String)) (h : Represents map set) :
    Represents (map.insertMany specs)
      (specs.foldl (fun set spec => set.insert spec.1 spec.2) set) := by
  -- spec by spec, with the map and the set in step
  induction specs generalizing map set with
  | nil => exact h
  | cons spec specs ih =>
    rw [Std.TreeMap.insertMany_cons, List.foldl_cons]
    exact ih (h.insert spec.1 spec.2)

theorem represents_ofList (specs : List (K × String)) :
    Represents (Std.TreeMap.ofList specs) (ofSpecs specs) := by
  rw [Std.TreeMap.ofList_eq_insertMany_empty]
  exact represents_insertMany specs fun _ => Std.TreeMap.getElem?_emptyc

theorem Represents.toList_eq (h : Represents map set) : map.toList = set.toSpecs := by
  rw [eq_toSpecs_iff]
  constructor
  · exact Std.TreeMap.ordered_keys_toList.imp ConstraintKind.compare_eq_lt_iff.1
  · intro spec
    rw [← h spec.1]
    exact Std.TreeMap.mem_toList_iff_getElem?_eq_some

theorem Represents.keys_eq (h : Represents map set) : map.keys = set.kinds := by
  rw [← Std.TreeMap.map_fst_toList_eq_keys, h.toList_eq, map_fst_toSpecs]

theorem Represents.size_eq (h : Represents map set) : map.size = set.size := by
  rw [← Std.TreeMap.length_keys, h.keys_eq, size]

end OrderedMaps

/-! ## Collected sets as ordered maps -/

/-- A set that is collected from a list of specs holds for each kind the value of the last spec of
that kind, and nothing for a kind that does not occur. The kinds that it contains and lists are
those to which it gives a value, and there are as many as occur in the list; they are listed in the
order of the table of all kinds. The set is collected again from the specs that it lists, which are
the list itself exactly if its kinds are in that order. Two lists are collected to one set exactly
if they have the same last values. For the kinds of both providers, whose tables follow the order of
their declaration, the set holds and lists what the ordered map of the same list does. -/
theorem collected_is_ordered_map :
    (∀ (K : Type) [DecidableEq K] [ConstraintKind K] (specs : List (K × String)),
      let set := ofSpecs specs
      (∀ kind value, set.get? kind = some value ↔ LastValue specs kind value) ∧
      (∀ kind, set.get? kind = none ↔ ∀ spec ∈ specs, spec.1 ≠ kind) ∧
      (∀ kind, set.contains kind = true ↔ ∃ value, set.get? kind = some value) ∧
      (∀ kind, kind ∈ set.kinds ↔ ∃ value, set.get? kind = some value) ∧
      (∀ spec, spec ∈ set.toSpecs ↔ set.get? spec.1 = some spec.2) ∧
      set.size = (specs.map Prod.fst).dedup.length ∧
      (set.isEmpty = true ↔ specs = []) ∧
      set.toSpecs.map Prod.fst = set.kinds ∧
      (set.toSpecs.Pairwise fun a b => ListedBefore a.1 b.1) ∧
      ofSpecs set.toSpecs = set ∧
      (set.toSpecs = specs ↔ specs.Pairwise fun a b => ListedBefore a.1 b.1) ∧
      ∀ others, set = ofSpecs others ↔
        ∀ kind value, LastValue specs kind value ↔ LastValue others kind value) ∧
    (∀ specs : List (KubernetesKind × String),
      let map := Std.TreeMap.ofList specs
      let set := ofSpecs specs
      (∀ kind, map[kind]? = set.get? kind) ∧ map.toList = set.toSpecs ∧ map.keys = set.kinds ∧
        map.size = set.size) ∧
    ∀ specs : List (AzureKind × String),
      let map := Std.TreeMap.ofList specs
      let set := ofSpecs specs
      (∀ kind, map[kind]? = set.get? kind) ∧ map.toList = set.toSpecs ∧ map.keys = set.kinds ∧
        map.size = set.size := by
  refine ⟨?_, ?_, ?_⟩
  · intro K _ _ specs set
    exact ⟨fun _ _ => get?_ofSpecs_eq_some_iff, fun _ => get?_ofSpecs_eq_none_iff,
      fun _ => contains_iff, fun _ => mem_kinds, fun _ => mem_toSpecs, size_ofSpecs,
      isEmpty_ofSpecs, map_fst_toSpecs, pairwise_toSpecs, ofSpecs_toSpecs set,
      toSpecs_ofSpecs_eq_iff, fun _ => ofSpecs_eq_ofSpecs_iff⟩
  · intro specs map set
    have hmap : Represents map set := represents_ofList specs
    exact ⟨hmap, hmap.toList_eq, hmap.keys_eq, hmap.size_eq⟩
  · intro specs map set
    have hmap : Represents map set := represents_ofList specs
    exact ⟨hmap, hmap.toList_eq, hmap.keys_eq, hmap.size_eq⟩

/-- The later pod counts, and the namespace is listed first. -/
example :
    let specs : List (KubernetesKind × String) :=
      [(.pod, "web-1"), (.podNamespace, "shop"), (.pod, "web-0")]
    (ofSpecs specs).toSpecs = [(.podNamespace, "shop"), (.pod, "web-0")] := by
  decide

end ResourceSet

end WorkloadGuard
