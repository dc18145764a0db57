import WorkloadGuard.Yaml.Lexer.State

/-!
# Lexing structure

The tokens between scalars: document marks, the ends of flow collections, dashes, commas, question
marks and colons. Each function takes the token that begins where the lexer stands, with the tokens
that it brings along, and fails where the token must not be.
-/

namespace WorkloadGuard.Yaml

namespace Lexer

/-! ## Ends and marks -/

def closeAll? (lexer : Lexer) : Option Lexer := do
  let lexer ← lexer.unrollAll.dropCandidate?
  return { lexer with keyAllowed := false }

/-- Ends the tokens. -/
def finish? (lexer : Lexer) : Option Lexer := do
  -- in YAML 1.2 no candidate may be required then and no flow collection open
  if lexer.edition = .v12 ∧ lexer.inFlow then none
  return (← lexer.closeAll?).emit .streamEnd

/-- Takes a document mark. -/
def takeDocumentMark? (lexer : Lexer) (mark : Token) : Option Lexer := do
  -- in YAML 1.2 it must not stand within a flow collection, and nothing but a comment may follow
  -- the mark behind a document
  if lexer.edition = .v12 ∧ lexer.inFlow then none
  let lexer ← lexer.closeAll?
  let lexer := (lexer.movedTo (lexer.cursor.ahead 3)).emit mark
  if mark = .documentEnd then
    let behind ← lexer.pastBlanks?
    if lexer.edition = .v12 ∧ ¬ Edition.atLineEnd .v12 behind.cursor.rest then none
    return behind
  else return lexer

/-! ## Flow collections -/

/-- Opens a flow collection. -/
def openFlow? (lexer : Lexer) (token : Token) : Option Lexer := do
  -- in YAML 1.2 at most 255 are open at a time
  let lexer := (← lexer.markCandidate?).rollInner
  if lexer.edition = .v12 ∧ 255 ≤ lexer.depth then none
  let opened : Lexer :=
    { lexer with
      cursor := lexer.cursor.ahead 1
      candidate := none
      outerCandidates := lexer.candidate :: lexer.outerCandidates
      keyAllowed := true
      pairs := if token = .flowSequenceStart then none :: lexer.pairs else lexer.pairs
      inFlowMapping := lexer.inFlowMapping || token == .flowMappingStart }
  return (← opened.pastBlanks?).emit token

/-- Ends the single entry that stands as an item of the innermost flow sequence, if there is one in
the innermost flow collection. -/
def endPair (lexer : Lexer) : Lexer :=
  match lexer.pairs with
  | some depth :: pairs =>
    if depth = lexer.depth then
      { lexer with pairs := none :: pairs, inFlowMapping := false }.emit .flowMappingEnd
    else lexer
  | _ => lexer

def closeFlow? (lexer : Lexer) (token : Token) : Option Lexer := do
  if lexer.edition = .v12 ∧ ¬ lexer.inFlow then none
  let lexer ← lexer.dropCandidate?
  let lexer :=
    if token = .flowSequenceEnd then
      let lexer := lexer.endPair
      { lexer with pairs := lexer.pairs.drop 1 }
    else lexer
  let closed : Lexer :=
    { lexer with
      cursor := lexer.cursor.ahead 1
      candidate := lexer.outerCandidates.head?.join
      outerCandidates := lexer.outerCandidates.drop 1
      keyAllowed := false }
  let behind ← closed.pastBlanks?
  return { behind with
    adjacentAt := if behind.inFlow then behind.cursor.index else behind.adjacentAt }.emit token

def takeFlowEntry? (lexer : Lexer) : Option Lexer := do
  let lexer := (← lexer.dropCandidate?).endPair
  let lexer ← { lexer with cursor := lexer.cursor.ahead 1, keyAllowed := true }.pastBlanks?
  return lexer.emit .flowEntry

/-! ## Block collections -/

/-- Opens a block collection here, unless it is open, where one may begin. -/
def openBlock? (lexer : Lexer) (token : Token) : Option Lexer :=
  if lexer.inFlow then some lexer
  else if lexer.keyAllowed then
    some (lexer.roll lexer.cursor.column lexer.count token)
  else none

def atDash (edition : Edition) : List Char → Bool
  | '-' :: cs => edition.atGap cs
  | _ => false

/-- Takes the blanks behind a dash. -/
def pastDash? (lexer : Lexer) : Option Lexer := do
  -- in YAML 1.2 there must be no tab between two dashes, and an item on another line, or one that
  -- begins with an indicator, has a column of its own
  if lexer.edition = .v11 then return lexer
  let (cursor, blanks) ← lexer.cursor.pastBlanks? .v12
  if blanks.contains '\t' && atDash .v12 cursor.rest then none
  let lexer := lexer.movedTo cursor
  if cursor.rest.head?.any fun c => c == '\n' || isFlowIndicator c then return lexer.rollInner
  else return lexer

/-- Takes the dash in front of an item. -/
def takeBlockEntry? (lexer : Lexer) : Option Lexer := do
  -- within a flow collection of YAML 1.2 there is none
  if lexer.edition = .v12 ∧ lexer.inFlow then none
  let lexer ← lexer.openBlock? .blockSequenceStart
  let lexer ← (lexer.movedTo (lexer.cursor.ahead 1)).pastDash?
  let lexer ← lexer.dropCandidate?
  return { lexer with keyAllowed := true }.emit .blockEntry

/-! ## Keys and values -/

/-- Passes over the spaces, breaks and comments behind a question mark, of which there must be one
that is no comment; a tab must not follow. -/
def pastQuestionMark? (fuel : Nat) (passed : Bool) (lexer : Lexer) : Option Lexer :=
  -- every step consumes a character, so the length of the text is fuel enough
  match lexer.cursor.rest with
  | [] => if passed then some lexer else none
  | c :: _ =>
    match fuel with
    | 0 => none
    | fuel + 1 =>
      if c = ' ' then pastQuestionMark? fuel true (lexer.movedTo (lexer.cursor.passing 1))
      else if c = '\n' then
        pastQuestionMark? fuel true
          { lexer with
            cursor := lexer.cursor.nextLine, keyAllowed := lexer.keyAllowed || !lexer.inFlow }
      else if c = '#' then
        pastQuestionMark? fuel passed (lexer.movedTo (lexer.cursor.lineEnd .v12))
      else if passed ∧ c ≠ '\t' then some lexer
      else none

def takeKey? (lexer : Lexer) : Option Lexer := do
  let lexer ← lexer.openBlock? .blockMappingStart
  let lexer ← lexer.dropCandidate?
  let lexer :=
    { lexer with
      cursor := lexer.cursor.ahead 1
      keyAllowed := !lexer.inFlow
      inFlowMapping := lexer.inFlowMapping || lexer.inFlow }
  let lexer ←
    match lexer.edition with
    | .v11 => some lexer
    | .v12 => lexer.pastQuestionMark? lexer.size false
  return lexer.emit .key

def isWordStart (c : Char) : Bool :=
  c.isAlphanum || c == '_' || c == '-'

/-- Takes the colon in front of a value. -/
def pastColon? (lexer : Lexer) : Option Lexer := do
  -- in YAML 1.2 a word must not stand behind tabs alone
  let lexer := lexer.movedTo (lexer.cursor.ahead 1)
  if lexer.edition = .v12 ∧ lexer.cursor.rest.head? = some '\t' then
    let (cursor, blanks) ← lexer.cursor.pastBlanks? .v12
    if !blanks.contains ' ' && cursor.rest.head?.any isWordStart then none
    return lexer.movedTo cursor
  else return lexer

/-- Puts the token for a key in front of a candidate, and with it the token that opens its mapping:
a block mapping in the column of the key, or the mapping of a single entry. -/
def makeKey? (lexer : Lexer) (key : KeyCandidate) (alone : Bool) (line : Nat) : Option Lexer := do
  let lexer := lexer.insert key.number .key
  let lexer ←
    if alone then
      if key.start.line < line then none
      else some (lexer.insert key.number .flowMappingStart)
    else some lexer
  let lexer := (lexer.roll key.start.column key.number .blockMappingStart).rollInner
  return { lexer with candidate := none, keyAllowed := false }

/-- Takes the colon in front of a value. -/
def takeValue? (lexer : Lexer) : Option Lexer := do
  -- the candidate of the innermost collection becomes a key; without one the key is empty, or
  -- stands behind a question mark
  let alone := lexer.edition = .v12 && !lexer.pairs.isEmpty && !lexer.inFlowMapping
  let start := lexer.cursor
  let lexer :=
    if alone then { lexer with pairs := some lexer.depth :: lexer.pairs.drop 1 } else lexer
  let lexer ← lexer.pastColon?
  match lexer.candidate with
  | some key => return (← lexer.makeKey? key alone start.line).emit .value
  | none =>
    let lexer := if alone then lexer.emit .flowMappingStart else lexer
    if !lexer.inFlow && !lexer.keyAllowed then none
    let lexer := (lexer.roll start.column lexer.count .blockMappingStart).rollInner
    return { lexer with keyAllowed := !lexer.inFlow }.emit .value

/-- Takes a colon within a flow collection of YAML 1.2 that has no gap behind it. -/
def takeAdjacentValue? (lexer : Lexer) (cs : List Char) : Option Lexer :=
  -- a collection may follow only where a key ended just before
  if lexer.cursor.index ≠ lexer.adjacentAt
      ∧ (cs.head? = some '[' ∨ cs.head? = some '\x7b') then none
  else lexer.takeValue?

end Lexer

end WorkloadGuard.Yaml
