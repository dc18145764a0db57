import WorkloadGuard.CommandLine

/-!
# The program

Takes a picture of the files that the arguments name, reads the environment, and hands both to the
command line. Nothing is decided here.
-/

namespace WorkloadGuard.Main

/-- The places that a path leads through from a starting point, the last one first. -/
def placesFrom (here : List String) : List String → List (List String)
  | [] => [here]
  | segment :: segments =>
    let next :=
      if segment = "" ∨ segment = "." then here
      else if segment = ".." then here.dropLast
      else here ++ [segment]
    placesFrom next segments ++ [here]

/-- The places that a path leads through from a working directory, the last one first. -/
def placesOf (workingDirectory : List String) (path : String) : List (List String) :=
  let segments := Text.splitOn '/' path
  placesFrom (if Text.startsWith "/" path then [] else workingDirectory) segments

def absolutePath (place : List String) : String :=
  "/" ++ String.intercalate "/" place

/-- The contents of a file; a file that cannot be read counts as empty. -/
def readContents (path : String) : IO ByteArray :=
  tryCatch (IO.FS.readBinFile path) fun _ => pure ByteArray.empty

/-- The picture of what lies at a path. -/
partial def pictureOf (path : String) (named : Bool) : IO (Option FileEntry) := do
  -- below a directory only policy files are read
  let found ← tryCatch (some <$> IO.FS.realPath path) fun _ => pure none
  let some place := found | return none
  unless ← place.pathExists do return none
  if ← place.isDir then
    let mut children := []
    for entry in ← tryCatch place.readDir fun _ => pure #[] do
      if let some child ← pictureOf (path ++ "/" ++ entry.fileName) false then
        children := (entry.fileName, child) :: children
    return some (.directory children)
  else if named || PolicyScan.isPolicyPath path then return some (.file (← readContents path))
  else return some (.file ByteArray.empty)

def addPath (tree : FileTree) (path : String) : IO FileTree := do
  match placesOf tree.workingDirectory path with
  | [] => return tree
  | target :: through =>
    let mut root := tree.root
    for place in through.reverse do
      if (root.descend? place).isNone then
        let found ← tryCatch (some <$> IO.FS.realPath (absolutePath place)) fun _ => pure none
        if let some directory := found then
          if ← directory.isDir then root := FileEntry.place place (.directory []) root
    if let some entry ← pictureOf (absolutePath target) true then
      root := FileEntry.place target entry root
    return { tree with root := root }

/-- The variables of the environment, as the system lists them for the running program. -/
def environment : IO (List (String × String)) := do
  let bytes ← readContents "/proc/self/environ"
  let text := (String.fromUTF8? bytes).getD ""
  return (Text.splitOn (Char.ofNat 0) text).filterMap (Text.cut? '=')

def runOnSystem (arguments : List String) : IO CommandLine.Outcome := do
  let paths :=
    match CommandLine.parse arguments with
    | .ok (.validate options) => options.paths ++ options.config.toList
    | _ => []
  let directory ← IO.currentDir
  let names := (Text.splitOn '/' (toString directory)).filter (· != "")
  let empty : FileTree := ⟨FileEntry.place names (.directory []) (.directory []), names⟩
  let tree ← paths.foldlM addPath empty
  return CommandLine.run tree (← environment) arguments

end WorkloadGuard.Main

def main (arguments : List String) : IO UInt32 := do
  let outcome ← WorkloadGuard.Main.runOnSystem arguments
  IO.print outcome.output
  return outcome.exitCode.toUInt32
