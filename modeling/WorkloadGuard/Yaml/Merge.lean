import WorkloadGuard.Yaml.Node

/-!
# Merge keys

A plain key `<<` stands for no entry of its own: its value is a mapping, or a sequence of mappings,
whose entries are merged into the mapping around it, unless that has an entry of the same key
already. No other key may be repeated.
-/

namespace WorkloadGuard.Yaml

namespace Node

def isMergeKey : Node → Bool
  | scalar true text => text == "<<"
  | _ => false

/-! ## What is merged -/

mutual

/-- The entries that the value of a merge key stands for: those of a mapping and then what is merged
into it, the later merges first; those of the mappings of a sequence, the later first; and none if
the value means nothing. -/
def mergedEntries? : Node → Option (List (Node × Node))
  | scalar plain text => if (scalar plain text).isNull then some [] else none
  | sequence items => itemsMergedEntries? items
  | mapping entries => do
    return entries.filter (fun entry => !entry.1.isMergeKey) ++ (← nestedEntries? entries)

/-- The entries that the items of a merged sequence stand for, those of later items first. -/
def itemsMergedEntries? : List Node → Option (List (Node × Node))
  | [] => some []
  | item :: items => do
    let entries ← item.mergedEntries?
    return (← itemsMergedEntries? items) ++ entries

/-- The entries that the merge keys among some entries stand for, those of later keys first. -/
def nestedEntries? : List (Node × Node) → Option (List (Node × Node))
  | [] => some []
  | (key, value) :: rest =>
    if key.isMergeKey then do
      let entries ← value.mergedEntries?
      return (← nestedEntries? rest) ++ entries
    else nestedEntries? rest

end

/-! ## Merging -/

def hasDistinctKeys : List (Node × Node) → Bool
  | [] => true
  | (key, _) :: entries => !hasKey entries key && hasDistinctKeys entries

def addMissing (entries : List (Node × Node)) : List (Node × Node) → List (Node × Node)
  | [] => entries
  | (key, value) :: merged =>
    addMissing (if hasKey entries key then entries else entries ++ [(key, value)]) merged

def resolveEntries? (entries : List (Node × Node)) : Option (List (Node × Node)) := do
  let own := entries.filter fun entry => !entry.1.isMergeKey
  if !hasDistinctKeys own then none
  return addMissing own (← nestedEntries? entries)

def resolveTo? (depth : Nat) (node : Node) : Option Node :=
  match depth, node with
  | _, scalar plain text => some (scalar plain text)
  | depth + 1, sequence items => do
    return sequence (← items.mapM (resolveTo? depth))
  | depth + 1, mapping entries => do
    let entries ← resolveEntries? entries
    let resolved ← entries.mapM fun (key, value) => do
      return (← resolveTo? depth key, ← resolveTo? depth value)
    return mapping resolved
  | 0, _ => none

/-- The node with all its mappings merged. Merging brings entries up but never down, so the depth of
the node is depth enough. -/
def resolve? (node : Node) : Option Node :=
  resolveTo? node.depth node

end Node

end WorkloadGuard.Yaml
