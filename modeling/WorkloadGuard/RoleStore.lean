import WorkloadGuard.RestrictionError
import WorkloadGuard.Role
import Std.Data.TreeMap

/-!
# Role stores

A role store answers with the annotations of a role, with nothing if there is no such role, or with
an error. A static store holds a fixed list of roles and never fails; where the list holds an id
twice, the first record counts.

## Main statements

- `StaticRoleStore.get?_ofRecords`: looking a role up is scanning the list for its first record.
-/

namespace WorkloadGuard

/-- Where the annotations of roles are kept. -/
structure RoleStore where
  annotationsOf : RoleId → Except RestrictionError (Option (List AnnotationEntry))

def RoleStore.failing (error : RestrictionError) : RoleStore :=
  ⟨fun _ => .error error⟩

/-- A fixed list of roles, indexed by id. -/
structure StaticRoleStore where
  /-- The annotations of the first record of each id. -/
  roles : Std.TreeMap String (List AnnotationEntry)

namespace StaticRoleStore

/-- Adds a record to a table that keeps the annotations it already has for an id. -/
def addNew (roles : Std.TreeMap String (List AnnotationEntry)) (record : RoleRecord) :
    Std.TreeMap String (List AnnotationEntry) :=
  roles.insertIfNew record.id.text record.annotations

def ofRecords (records : List RoleRecord) : StaticRoleStore :=
  ⟨records.foldl addNew ∅⟩

def get? (store : StaticRoleStore) (id : RoleId) : Option (List AnnotationEntry) :=
  store.roles[id.text]?

/-- Adding records one by one, the first record of an id counts unless the table has the id. -/
private theorem getElem?_foldl_addNew_records (records : List RoleRecord)
    (roles : Std.TreeMap String (List AnnotationEntry)) (id : RoleId) :
    (records.foldl addNew roles)[id.text]? =
      roles[id.text]?.or
        ((records.find? fun record => record.id == id).map RoleRecord.annotations) := by
  induction records generalizing roles with
  | nil => simp
  | cons record records ih =>
    rw [List.foldl_cons, ih, addNew, Std.TreeMap.getElem?_insertIfNew]
    by_cases hid : record.id = id
    · subst hid
      by_cases hmem : record.id.text ∈ roles
      · simp [hmem]
      · simp [hmem]
    · have htext : record.id.text ≠ id.text := fun h => hid (congrArg RoleId.mk h)
      simp [hid, htext]

/-- The store of a list of records serves the annotations of the first record of each id. -/
theorem get?_ofRecords (records : List RoleRecord) (id : RoleId) :
    (ofRecords records).get? id =
      (records.find? fun record => record.id == id).map RoleRecord.annotations := by
  simp [get?, ofRecords, getElem?_foldl_addNew_records]

def size (store : StaticRoleStore) : Nat :=
  store.roles.size

def isEmpty (store : StaticRoleStore) : Bool :=
  store.roles.isEmpty

def toRoleStore (store : StaticRoleStore) : RoleStore :=
  ⟨fun id => .ok (store.get? id)⟩

end StaticRoleStore

end WorkloadGuard
