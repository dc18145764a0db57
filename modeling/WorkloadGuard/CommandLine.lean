import WorkloadGuard.Policy.Report
import WorkloadGuard.Policy.Scan
import WorkloadGuard.Settings.Load

/-!
# Command line

The offline validator as a function from arguments, environment and file tree to an exit code and a
text. Arguments are read from left to right; the first fault, or the first request for help or for
the version, ends the reading. The exit code is 0 if nothing failed, 1 if something did, and 2 if
the arguments or the settings are at fault.
-/

namespace WorkloadGuard.CommandLine

/-! ## Options -/

/-- What a run is asked to do. -/
structure Options where
  paths : List String
  /-- The authenticator service that roles are validated for. -/
  serviceId : String
  selection : ProviderSelection
  exclude : List String
  json : Bool
  verbose : Bool
  config : Option String
  deriving DecidableEq, Repr

/-- Why arguments are refused. -/
inductive UsageError where
  | unknownOption (argument : String)
  | repeatedOption (name : String)
  | missingValue (name : String)
  | unexpectedValue (name : String)
  | invalidValue (name value : String)
  | missingOption (name : String)
  deriving DecidableEq, Repr

/-- What arguments ask for. -/
inductive Request where
  | validate (options : Options)
  | help
  | version
  deriving DecidableEq, Repr

/-! ## Reading arguments -/

/-- The options that take a value. -/
inductive ValueOption where
  | serviceId
  | provider
  | exclude
  /-- The settings file. -/
  | config
  deriving DecidableEq, Repr

/-- The options that take no value. -/
inductive Flag where
  | json
  | verbose
  | help
  | version
  deriving DecidableEq, Repr

def ValueOption.ofName? : String → Option ValueOption
  | "service-id" => some .serviceId
  | "provider" => some .provider
  | "exclude" => some .exclude
  | "config" => some .config
  | _ => none

def Flag.ofName? : String → Option Flag
  | "json" => some .json
  | "verbose" => some .verbose
  | "help" => some .help
  | "version" => some .version
  | _ => none

def Flag.ofLetter? : Char → Option Flag
  | 'v' => some .verbose
  | 'h' => some .help
  | 'V' => some .version
  | _ => none

def selectionOfName? : String → Option ProviderSelection
  | "auto" => some .auto
  | "k8s" => some (.only .kubernetes)
  | "azure" => some (.only .azure)
  | _ => none

/-- What has been read of the arguments. -/
structure Draft where
  paths : List String := []
  serviceId : Option String := none
  selection : Option ProviderSelection := none
  exclude : List String := []
  json : Bool := false
  verbose : Bool := false
  config : Option String := none

namespace Draft

def addPath (draft : Draft) (path : String) : Except UsageError Draft :=
  if path = "" then .error (.invalidValue "paths" path)
  else .ok { draft with paths := draft.paths ++ [path] }

def addValue (draft : Draft) (option : ValueOption) (value : String) : Except UsageError Draft :=
  match option with
  | .exclude => .ok { draft with exclude := draft.exclude ++ [value] }
  | .serviceId =>
    if draft.serviceId.isSome then .error (.repeatedOption "service-id")
    else .ok { draft with serviceId := some value }
  | .provider =>
    if draft.selection.isSome then .error (.repeatedOption "provider")
    else
      match selectionOfName? value with
      | some selection => .ok { draft with selection := some selection }
      | none => .error (.invalidValue "provider" value)
  | .config =>
    if draft.config.isSome then .error (.repeatedOption "config")
    else if value = "" then .error (.invalidValue "config" value)
    else .ok { draft with config := some value }

/-- The options that the arguments give; paths default to the working directory. -/
def finish (draft : Draft) : Except UsageError Request :=
  match draft.serviceId with
  | none => .error (.missingOption "service-id")
  | some serviceId =>
    .ok (.validate {
      paths := if draft.paths.isEmpty then ["."] else draft.paths
      serviceId := serviceId
      selection := draft.selection.getD .auto
      exclude := draft.exclude
      json := draft.json
      verbose := draft.verbose
      config := draft.config })

def addFlag (draft : Draft) : Flag → Except UsageError (Draft ⊕ Request)
  | .json =>
    if draft.json then .error (.repeatedOption "json") else .ok (.inl { draft with json := true })
  | .verbose =>
    if draft.verbose then .error (.repeatedOption "verbose")
    else .ok (.inl { draft with verbose := true })
  | .help => .ok (.inr .help)
  | .version => .ok (.inr .version)

def addLetters (draft : Draft) : List Char → Except UsageError (Draft ⊕ Request)
  | [] => .ok (.inl draft)
  | letter :: letters =>
    match Flag.ofLetter? letter with
    | none => .error (.unknownOption (String.ofList [letter]))
    | some flag => do
      match ← draft.addFlag flag with
      | .inl draft => draft.addLetters letters
      | .inr request => return .inr request

end Draft

/-- What an argument is taken for, before two dashes on their own have been read. -/
inductive Argument where
  /-- Two dashes on their own, behind which everything is a path. -/
  | endOfOptions
  /-- Two dashes and a name, with a value behind an equals sign if there is one. -/
  | long (name : String) (value : Option String)
  | short (letters : List Char)
  | path (text : String)
  deriving DecidableEq, Repr

def Argument.ofText (text : String) : Argument :=
  match text.toList with
  | ['-', '-'] => .endOfOptions
  | '-' :: '-' :: cs =>
    match Text.cutChars? '=' cs with
    | some (name, value) => .long (String.ofList name) (some (String.ofList value))
    | none => .long (String.ofList cs) none
  | '-' :: c :: cs => .short (c :: cs)
  | _ => .path text

/-- Whether an argument can be the value of the option in front of it. -/
def Argument.isValue : Argument → Bool
  | .path _ => true
  | _ => false

def readArguments (draft : Draft) : List String → Except UsageError Request
  | [] => draft.finish
  | text :: texts =>
    match Argument.ofText text with
    | .endOfOptions => do
      let draft ← texts.foldlM Draft.addPath draft
      draft.finish
    | .path path => do
      let draft ← draft.addPath path
      readArguments draft texts
    | .short letters => do
      match ← draft.addLetters letters with
      | .inl draft => readArguments draft texts
      | .inr request => return request
    | .long name value =>
      match ValueOption.ofName? name, Flag.ofName? name with
      | some option, _ =>
        match value, texts with
        | some value, texts => do
          let draft ← draft.addValue option value
          readArguments draft texts
        | none, next :: texts =>
          if (Argument.ofText next).isValue then do
            let draft ← draft.addValue option next
            readArguments draft texts
          else .error (.missingValue name)
        | none, [] => .error (.missingValue name)
      | none, some flag =>
        match value with
        | some _ => .error (.unexpectedValue name)
        | none => do
          match ← draft.addFlag flag with
          | .inl draft => readArguments draft texts
          | .inr request => return request
      | none, none => .error (.unknownOption name)

def parse (arguments : List String) : Except UsageError Request :=
  readArguments {} arguments

/-! ## Running -/

def versionLine : String :=
  "restrictions-validator 0.1.0"

def usage : String :=
  "Usage: restrictions-validator [OPTIONS] --service-id <SERVICE_ID> [PATHS]...\n"

/-- The outcome of a run. -/
structure Outcome where
  exitCode : Nat
  output : String
  deriving DecidableEq, Repr

def validate (tree : FileTree) (options : Options) (settings : EngineSettings) :
    ValidationReport :=
  let files := PolicyScan.findFiles tree options.paths options.exclude
  .ofChecks files.length
    (files.map (Policy.checkFile tree options.serviceId options.selection settings))

def Outcome.ofReport (report : ValidationReport) (json : Bool) : Outcome where
  exitCode := if report.isClean then 0 else 1
  output := if json then report.toJson.pretty ++ "\n" else report.text

def run (tree : FileTree) (environment : List (String × String)) (arguments : List String) :
    Outcome :=
  match parse arguments with
  | .error _ => ⟨2, ""⟩
  | .ok .help => ⟨0, usage⟩
  | .ok .version => ⟨0, versionLine ++ "\n"⟩
  | .ok (.validate options) =>
    match AppSettings.load tree options.config environment with
    | .error _ => ⟨2, ""⟩
    | .ok settings => .ofReport (validate tree options settings.restrictions) options.json

end WorkloadGuard.CommandLine
