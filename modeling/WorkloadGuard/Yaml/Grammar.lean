import WorkloadGuard.Yaml.Node
import WorkloadGuard.Yaml.Token

/-!
# From YAML tokens to nodes

Each function reads from the front of a list of tokens and gives back what follows. Tokens run out
only in a text with a fault, so a reader that finds none fails. Where a key, a value or an item may
be left out, the empty node stands for it. At most four calls lie within one another for a token
that is consumed, so four times the number of tokens is fuel enough.
-/

namespace WorkloadGuard.Yaml

/-- Where a node stands, which says what it may be. -/
inductive NodePlace where
  | inFlow
  | inBlock
  /-- The key or the value of a block mapping, which may also be a sequence whose dashes stand in
  the column of the mapping. -/
  | inEntry
  deriving DecidableEq, Repr

mutual

def readNode? (edition : Edition) (fuel : Nat) (place : NodePlace) (tokens : List Token) :
    Option (Node × List Token) :=
  match fuel, tokens with
  | _, .scalar plain text :: rest => some (.scalar plain text, rest)
  | fuel + 1, .flowSequenceStart :: rest => do
    let (items, rest) ← readFlowItems? edition fuel rest
    return (.sequence items, rest)
  | fuel + 1, .flowMappingStart :: rest => do
    let (entries, rest) ← readFlowEntries? edition fuel rest
    return (.mapping entries, rest)
  | fuel + 1, .blockSequenceStart :: rest => do
    if place = .inFlow then none
    let (items, rest) ← readBlockItems? edition fuel rest
    return (.sequence items, rest)
  | fuel + 1, .blockMappingStart :: rest => do
    if place = .inFlow then none
    let (entries, rest) ← readBlockEntries? edition fuel rest
    return (.mapping entries, rest)
  | fuel + 1, .blockEntry :: rest => do
    if place ≠ .inEntry then none
    let (items, rest) ← readAlignedItems? edition fuel (.blockEntry :: rest)
    return (.sequence items, rest)
  | _, _ => none

def readOptional? (edition : Edition) (fuel : Nat) (place : NodePlace) (absentAt : List Token)
    (tokens : List Token) : Option (Node × List Token) :=
  match fuel, tokens with
  | fuel + 1, token :: tokens =>
    if absentAt.contains token then some (.empty edition, token :: tokens)
    else readNode? edition fuel place (token :: tokens)
  | _, _ => none

/-- Reads the value of an entry, which may be left out with or without its colon. -/
def readValue? (edition : Edition) (fuel : Nat) (place : NodePlace) (absentAt : List Token)
    (tokens : List Token) : Option (Node × List Token) :=
  match fuel, tokens with
  | fuel + 1, .value :: tokens => readOptional? edition fuel place absentAt tokens
  | _, token :: tokens => some (.empty edition, token :: tokens)
  | _, [] => none

def readBlockItems? (edition : Edition) (fuel : Nat) (tokens : List Token) :
    Option (List Node × List Token) :=
  match fuel, tokens with
  | _, .blockEnd :: rest => some ([], rest)
  | fuel + 1, .blockEntry :: tokens => do
    let (item, tokens) ←
      readOptional? edition fuel .inBlock [.blockEntry, .blockEnd] tokens
    let (items, rest) ← readBlockItems? edition fuel tokens
    return (item :: items, rest)
  | _, _ => none

/-- Reads the items of a sequence whose dashes stand in the column of the mapping around it. -/
def readAlignedItems? (edition : Edition) (fuel : Nat) (tokens : List Token) :
    Option (List Node × List Token) :=
  match fuel, tokens with
  | fuel + 1, .blockEntry :: tokens => do
    let (item, tokens) ←
      readOptional? edition fuel .inBlock [.blockEntry, .key, .value, .blockEnd] tokens
    let (items, rest) ← readAlignedItems? edition fuel tokens
    return (item :: items, rest)
  | _, token :: tokens => some ([], token :: tokens)
  | _, [] => none

/-- Reads the entries of a block mapping up to its end. -/
def readBlockEntries? (edition : Edition) (fuel : Nat) (tokens : List Token) :
    Option (List (Node × Node) × List Token) :=
  -- in YAML 1.2 a key may be left out
  match fuel, tokens with
  | _, .blockEnd :: rest => some ([], rest)
  | fuel + 1, token :: tokens => do
    let (key, tokens) ←
      if token = .key then
        readOptional? edition fuel .inEntry [.key, .value, .blockEnd] tokens
      else if token = .value ∧ edition = .v12 then some (Node.empty edition, .value :: tokens)
      else none
    let (value, tokens) ←
      readValue? edition fuel .inEntry [.key, .value, .blockEnd] tokens
    let (entries, rest) ← readBlockEntries? edition fuel tokens
    return ((key, value) :: entries, rest)
  | _, _ => none

/-- Reads the items of a flow sequence up to its end, behind its start or behind a comma. -/
def readFlowItems? (edition : Edition) (fuel : Nat) (tokens : List Token) :
    Option (List Node × List Token) :=
  -- an item may be a single entry of a mapping; where its key is left out, the next token is passed
  -- over
  match fuel, tokens with
  | _, .flowSequenceEnd :: rest => some ([], rest)
  | fuel + 1, token :: tokens => do
    let (item, tokens) ←
      if token = .key then do
        let (key, tokens) ←
          match tokens with
          | .value :: tokens | .flowEntry :: tokens | .flowSequenceEnd :: tokens =>
            some (Node.empty edition, tokens)
          | tokens => readNode? edition fuel .inFlow tokens
        let (value, tokens) ←
          readValue? edition fuel .inFlow [.flowEntry, .flowSequenceEnd] tokens
        pure (Node.mapping [(key, value)], tokens)
      else readNode? edition fuel .inFlow (token :: tokens)
    match tokens with
    | .flowSequenceEnd :: rest => return ([item], rest)
    | .flowEntry :: tokens => do
      let (items, rest) ← readFlowItems? edition fuel tokens
      return (item :: items, rest)
    | _ => none
  | _, _ => none

/-- Reads the entries of a flow mapping up to its end, behind its start or behind a comma. -/
def readFlowEntries? (edition : Edition) (fuel : Nat) (tokens : List Token) :
    Option (List (Node × Node) × List Token) :=
  -- a node alone is a key without value; in YAML 1.2 a key may be left out
  match fuel, tokens with
  | _, .flowMappingEnd :: rest => some ([], rest)
  | fuel + 1, token :: tokens => do
    let (key, tokens) ←
      if token = .key then
        readOptional? edition fuel .inFlow [.value, .flowEntry, .flowMappingEnd] tokens
      else if token = .value ∧ edition = .v12 then some (Node.empty edition, .value :: tokens)
      else readNode? edition fuel .inFlow (token :: tokens)
    let (value, tokens) ←
      if token = .key ∨ token = .value then
        readValue? edition fuel .inFlow [.flowEntry, .flowMappingEnd] tokens
      else some (Node.empty edition, tokens)
    match tokens with
    | .flowMappingEnd :: rest => return ([(key, value)], rest)
    | .flowEntry :: tokens => do
      let (entries, rest) ← readFlowEntries? edition fuel tokens
      return ((key, value) :: entries, rest)
    | _ => none
  | _, _ => none

end

end WorkloadGuard.Yaml
