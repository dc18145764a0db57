import WorkloadGuard.Yaml.Grammar
import WorkloadGuard.Yaml.Lexer

/-!
# YAML documents

A text may hold several documents, of which this library wants one. Settings are strict: their text
must be without fault and hold at most one document. Of a policy the first document is read, and
what follows it matters only if it is another document; a fault in it does not.
-/

namespace WorkloadGuard.Yaml

def readRoot? (edition : Edition) (tokens : List Token) : Option (Node × List Token) :=
  readNode? edition (4 * tokens.length + 4) .inBlock tokens

def beginsEmpty : List Token → Bool
  | .documentStart :: _ | .documentEnd :: _ | .streamEnd :: _ => true
  | _ => false

/-- Reads a document that may have a mark in front, and gives back what follows it. -/
def readDocument? (edition : Edition) : List Token → Option (Node × List Token)
  | .documentStart :: tokens =>
    if beginsEmpty tokens then some (.empty edition, tokens) else readRoot? edition tokens
  | tokens => readRoot? edition tokens

def dropDocumentEnds (tokens : List Token) : List Token :=
  tokens.dropWhile (· == .documentEnd)

/-! ## One document -/

/-- Reads a text that is without fault and holds at most one document. -/
def onlyDocument? (edition : Edition) (text : String) : Option (Option Node) := do
  -- an empty text has none
  match tokens edition text with
  | [.streamEnd] => return none
  | tokens =>
    let (node, rest) ← readDocument? edition tokens
    if dropDocumentEnds rest = [.streamEnd] then return some node else none

/-! ## The first document -/

def beginsMarkedDocument : List Token → Bool
  | .documentStart :: tokens => beginsEmpty tokens || tokens.head?.any Token.beginsNode
  | _ => false

/-- Whether another document can be told to begin behind the first: behind a mark of its own, or
behind the mark that ends the first. -/
def beginsAnother : List Token → Bool
  | .documentEnd :: tokens =>
    let tokens := dropDocumentEnds tokens
    tokens.head?.any Token.beginsNode || beginsMarkedDocument tokens
  | tokens => beginsMarkedDocument tokens

/-- Reads the first document of a text that holds at most one. -/
def firstDocument? (edition : Edition) (text : String) : Option (Option Node) := do
  -- the text must go on without fault up to the first token behind the document; a text without any
  -- document has none
  match dropDocumentEnds (tokens edition text) with
  | .streamEnd :: _ => return none
  | tokens =>
    let (node, rest) ← readDocument? edition tokens
    if rest.isEmpty ∨ beginsAnother rest then none else return some node

end WorkloadGuard.Yaml
