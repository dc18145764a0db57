import WorkloadGuard.Text

/-!
# Paths

A path is a text; what it means are its components. Slashes that repeat and dots inside a path do
not count, while a leading dot and every double dot do. Paths are ordered component by component:
the root, a leading dot and a double dot come before all names, and names are ordered by code
points.
-/

namespace WorkloadGuard.Path

/-- A step of a path. -/
inductive Component where
  | root
  | current
  | parent
  | name (text : String)
  deriving DecidableEq, Repr

namespace Component

/-- The component of a segment that is not the first; blank segments and dots have none. -/
def ofSegment? (segment : String) : Option Component :=
  if segment = "" ∨ segment = "." then none
  else if segment = ".." then some parent
  else some (name segment)

def ofFirstSegment? (segment : String) : Option Component :=
  if segment = "." then some current else ofSegment? segment

end Component

def components (path : String) : List Component :=
  match Text.splitOn '/' path with
  | [] => []
  | first :: rest =>
    (if first = "" ∧ rest ≠ [] then [.root] else (Component.ofFirstSegment? first).toList)
      ++ rest.filterMap Component.ofSegment?

def sameComponents (a b : String) : Bool :=
  decide (components a = components b)

/-! ## Order -/

/-- Lexicographic order on lists whose items are ordered by `before`; a list comes before its
continuations. -/
def lexLE {α : Type} (before : α → α → Bool) : List α → List α → Bool
  | [], _ => true
  | _ :: _, [] => false
  | a :: as, b :: bs => before a b || (!before b a && lexLE before as bs)

def charBefore (a b : Char) : Bool :=
  Nat.blt a.toNat b.toNat

namespace Component

def rank : Component → Nat
  | root => 0
  | current => 1
  | parent => 2
  | name _ => 3

def before : Component → Component → Bool
  | name s, name t => !lexLE charBefore t.toList s.toList
  | a, b => Nat.blt a.rank b.rank

end Component

def precedes (a b : String) : Bool :=
  lexLE Component.before (components a) (components b)

/-! ## Names and extensions -/

/-- The name at the end of a path; a path that ends in a double dot, or is no more than a root or a
dot, has none. -/
def fileName? (path : String) : Option String :=
  match (components path).getLast? with
  | some (.name text) => some text
  | _ => none

/-- The part of a file name after its last dot, if anything stands before that dot. -/
def extensionOfName? (name : String) : Option String :=
  match (Text.splitOn '.' name).reverse with
  | _ :: [] | [_, ""] | [] => none
  | last :: _ => some last

def extension? (path : String) : Option String :=
  (fileName? path).bind extensionOfName?

/-- Whether a path ends in a name with the given extension, in any case. -/
def hasExtension (wanted : String) (path : String) : Bool :=
  (extension? path).any fun found => Text.equalsIgnoringCase found wanted

def join (directory : String) (segments : List String) : String :=
  let rest := String.intercalate "/" segments
  if directory.toList.getLast? = some '/' then directory ++ rest else directory ++ "/" ++ rest

end WorkloadGuard.Path
