import WorkloadGuard.Files.Path

/-!
# File trees

The part of a file system that a run looks at: directories with named children and files with bytes,
together with the working directory. There are no links, so a path denotes at most one entry.

A path is followed segment by segment. Every step, that of a dot or of an empty segment included,
needs a directory to start from, so `a.yaml/` denotes nothing if `a.yaml` is a file.
-/

namespace WorkloadGuard

/-- An entry of a file system. -/
inductive FileEntry where
  | file (contents : ByteArray)
  /-- A directory with its children. -/
  | directory (children : List (String × FileEntry))

namespace FileEntry

def child? (name : String) : FileEntry → Option FileEntry
  | file _ => none
  | directory children => (children.find? fun child => child.1 == name).map Prod.snd

def children : FileEntry → List (String × FileEntry)
  | file _ => []
  | directory children => children

def descend? : List String → FileEntry → Option FileEntry
  | [], entry => some entry
  | name :: names, entry => (entry.child? name).bind (descend? names)

/-- Puts an entry where a sequence of names leads to. -/
def place : List String → FileEntry → FileEntry → FileEntry
  -- missing directories are made, and what stands in the way is replaced
  | [], entry, _ => entry
  | name :: names, entry, parent =>
    let old := (parent.child? name).getD (directory [])
    directory ((name, place names entry old) :: parent.children.filter (·.1 != name))

def isDirectory : FileEntry → Bool
  | file _ => false
  | directory _ => true

mutual

/-- The files below an entry, each by the names that lead to it. -/
def filesBelow (skipped : List String) : FileEntry → List (List String)
  -- directories whose name is in `skipped` are passed over with all that is below them; the entry
  -- itself is not
  | file _ => [[]]
  | directory children => filesAmong skipped children

def filesAmong (skipped : List String) : List (String × FileEntry) → List (List String)
  | [] => []
  | (name, child) :: rest =>
    let found :=
      if child.isDirectory && skipped.contains name then []
      else (child.filesBelow skipped).map (name :: ·)
    found ++ filesAmong skipped rest

end

end FileEntry

/-- Why a path cannot be read. -/
inductive ReadFailure where
  | notFound
  | notADirectory
  | isADirectory
  | notUtf8
  deriving DecidableEq, Repr

def ReadFailure.message : ReadFailure → String
  | notFound => "No such file or directory (os error 2)"
  | notADirectory => "Not a directory (os error 20)"
  | isADirectory => "Is a directory (os error 21)"
  | notUtf8 => "stream did not contain valid UTF-8"

/-- A file system as it is seen from a working directory. -/
structure FileTree where
  root : FileEntry
  workingDirectory : List String

namespace FileTree

def step (tree : FileTree) (here : List String) (segment : String) :
    Except ReadFailure (List String) :=
  match tree.root.descend? here with
  | none => .error .notFound
  | some (.file _) => .error .notADirectory
  | some (.directory _) =>
    if segment = "" ∨ segment = "." then .ok here
    else if segment = ".." then .ok here.dropLast
    else if (tree.root.descend? (here ++ [segment])).isSome then .ok (here ++ [segment])
    else .error .notFound

def location (tree : FileTree) (path : String) : Except ReadFailure (List String) :=
  if path = "" then .error .notFound
  else
    let start := if Text.startsWith "/" path then [] else tree.workingDirectory
    (Text.splitOn '/' path).foldlM tree.step start

def entry (tree : FileTree) (path : String) : Except ReadFailure FileEntry := do
  let names ← tree.location path
  match tree.root.descend? names with
  | some entry => return entry
  | none => throw .notFound

def isFile (tree : FileTree) (path : String) : Bool :=
  match tree.entry path with
  | .ok (.file _) => true
  | _ => false

def readText (tree : FileTree) (path : String) : Except ReadFailure String := do
  match ← tree.entry path with
  | .directory _ => throw .isADirectory
  | .file contents =>
    match String.fromUTF8? contents with
    | some text => return text
    | none => throw .notUtf8

end FileTree

end WorkloadGuard
