import WorkloadGuard.Yaml.Edition

/-!
# YAML tokens

The tokens between the characters of a text and its nodes. The structure that indentation gives is
already spelled out in them: a block collection has a token at its start and one at its end, and a
token stands in front of every key and every value.
-/

namespace WorkloadGuard.Yaml

/-- What a token stands for. -/
inductive Token where
  | documentStart
  | documentEnd
  | streamEnd
  | blockSequenceStart
  | blockMappingStart
  | blockEnd
  | blockEntry
  | flowSequenceStart
  | flowSequenceEnd
  | flowMappingStart
  | flowMappingEnd
  | flowEntry
  | key
  | value
  | scalar (plain : Bool) (text : String)
  deriving DecidableEq, Repr

def Token.beginsNode : Token → Bool
  | blockSequenceStart | blockMappingStart | flowSequenceStart | flowMappingStart | scalar _ _ =>
    true
  | _ => false

/-- The token for a document mark, which is three dashes or three dots before a gap, if the
characters begin with one. -/
def documentMark? (edition : Edition) : List Char → Option Token
  | '-' :: '-' :: '-' :: cs => if edition.atGap cs then some .documentStart else none
  | '.' :: '.' :: '.' :: cs => if edition.atGap cs then some .documentEnd else none
  | _ => none

end WorkloadGuard.Yaml
