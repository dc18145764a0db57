import WorkloadGuard.Files.Glob
import WorkloadGuard.Files.Tree

/-!
# Scanning for policy files

The listed paths are files, which are taken as they are, or directories, which are searched at every
depth save below a few directories that never hold policies. In both cases only files with an
extension of policy documents count, and of these none that an exclude pattern matches. The result
is ordered by path, and of several spellings of one path the first that was found is kept.
-/

namespace WorkloadGuard.PolicyScan

def extensions : List String :=
  ["yaml", "yml", "json"]

def skippedDirectories : List String :=
  ["target", "node_modules", ".git"]

def isPolicyPath (path : String) : Bool :=
  extensions.any fun wanted => Path.hasExtension wanted path

def isExcluded (patterns : List (List Glob.Token)) (path : String) : Bool :=
  patterns.any fun tokens =>
    Glob.matchesText tokens path || (Path.fileName? path).any (Glob.matchesText tokens)

/-- The paths that a listed path stands for: itself if it is a file, the files below it if it is a
directory, and none otherwise. -/
def reachable (tree : FileTree) (path : String) : List String :=
  match tree.entry path with
  | .ok (.file _) => [path]
  | .ok entry => (entry.filesBelow skippedDirectories).map (Path.join path)
  | .error _ => []

/-- The policy files that the listed paths stand for, in the order in which they are found. -/
def candidates (tree : FileTree) (paths exclude : List String) : List String :=
  let patterns := exclude.filterMap Glob.parse?
  (paths.flatMap (reachable tree)).filter fun path =>
    isPolicyPath path && !isExcluded patterns path

/-- The paths that differ from the one before them, which is `last` for the first. -/
def dropRepeatsOf (last : String) : List String → List String
  | [] => []
  | path :: paths =>
    if Path.sameComponents last path then dropRepeatsOf last paths
    else path :: dropRepeatsOf path paths

/-- A list of paths without those that have the components of the path before them. -/
def dropRepeats : List String → List String
  | [] => []
  | path :: paths => path :: dropRepeatsOf path paths

/-- The policy files that the listed paths stand for, in order of their paths and each once.
Patterns that cannot be read are passed over. -/
def findFiles (tree : FileTree) (paths exclude : List String) : List String :=
  dropRepeats ((candidates tree paths exclude).mergeSort Path.precedes)

end WorkloadGuard.PolicyScan
