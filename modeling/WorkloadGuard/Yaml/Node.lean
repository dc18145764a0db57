import WorkloadGuard.Text
import WorkloadGuard.Yaml.Edition

/-!
# YAML nodes

The tree that a YAML text describes. Scalars keep their text and whether they were plain, since only
a plain scalar can mean something other than its text. Keys are nodes like any others.
-/

namespace WorkloadGuard.Yaml

/-- A node of a document. -/
inductive Node where
  /-- A scalar; a plain one is written without quotes. -/
  | scalar (plain : Bool) (text : String)
  | sequence (items : List Node)
  | mapping (entries : List (Node × Node))

namespace Node

/-- The node of a place where nothing is written: in YAML 1.1 a plain scalar without text, in YAML
1.2 a tilde. -/
def empty : Edition → Node
  | .v11 => scalar true ""
  | .v12 => scalar true "~"

/-- Whether a node is a plain scalar that means nothing: empty, a tilde or the word `null`. -/
def isNull : Node → Bool
  | scalar true text => text == "" || text == "~" || Text.equalsIgnoringCase text "null"
  | _ => false

/-! ## Sameness

Two keys are the same if they are built alike from scalars of the same texts. -/

mutual

/-- Whether two nodes are the same but for the quotes of their scalars. -/
def sameAs : Node → Node → Bool
  | scalar _ text, scalar _ other => text == other
  | sequence items, sequence others => sameItems items others
  | mapping entries, mapping others => sameEntries entries others
  | _, _ => false

def sameItems : List Node → List Node → Bool
  | [], [] => true
  | item :: items, other :: others => item.sameAs other && sameItems items others
  | _, _ => false

def sameEntries : List (Node × Node) → List (Node × Node) → Bool
  | [], [] => true
  | (key, value) :: entries, (otherKey, otherValue) :: others =>
    key.sameAs otherKey && value.sameAs otherValue && sameEntries entries others
  | _, _ => false

end

def hasKey (entries : List (Node × Node)) (key : Node) : Bool :=
  entries.any fun entry => entry.1.sameAs key

/-! ## Depth -/

mutual

def depth : Node → Nat
  | scalar _ _ => 0
  | sequence items => itemsDepth items + 1
  | mapping entries => entriesDepth entries + 1

def itemsDepth : List Node → Nat
  | [] => 0
  | item :: items => max item.depth (itemsDepth items)

def entriesDepth : List (Node × Node) → Nat
  | [] => 0
  | (key, value) :: entries => max (max key.depth value.depth) (entriesDepth entries)

end

end Node

end WorkloadGuard.Yaml
