import WorkloadGuard.Yaml.Lexer.Structure

/-!
# Lexing YAML

From characters to tokens. A text that breaks the rules still has the tokens in front of the break,
save those behind a candidate for a key that has not been settled.
-/

namespace WorkloadGuard.Yaml

namespace Lexer

/-! ## Scalars -/

def scalarPlace (lexer : Lexer) : ScalarPlace :=
  ⟨lexer.edition, lexer.inFlow, lexer.indent⟩

/-- Takes a plain scalar. -/
def takePlain? (lexer : Lexer) : Option Lexer := do
  -- in YAML 1.2 it is held against the innermost block collection, must not be empty, and within a
  -- flow collection must not begin to the left of what is held
  let lexer ← lexer.markCandidate?
  let lexer :=
    match lexer.edition with
    | .v11 => lexer
    | .v12 => { lexer with levels := lexer.levels.dropWhile (!·.isBlock) }
  let place := lexer.scalarPlace
  if lexer.edition = .v12 ∧ lexer.inFlow ∧ place.isOutside lexer.cursor then none
  let state ← readPlain? place lexer.size { cursor := lexer.cursor }
  if lexer.edition = .v12 ∧ state.reversed.isEmpty then none
  let commented := lexer.edition == .v12 && !lexer.inFlow && !state.gap.isEmpty
    && !state.gap.crossesLine && state.cursor.rest.head? == some '#'
  return { lexer with
    cursor := state.cursor
    keyAllowed := state.gap.crossesLine
    commentedLine := if commented then some state.cursor.line else none
  }.emit (.scalar true state.text)

/-- Whether something may follow a quoted scalar in YAML 1.2: a separator within a flow collection,
the colon behind a key, or the end of the line. -/
def mayFollowQuoted (lexer : Lexer) (start : Cursor) : Bool :=
  -- outside of flow collections a key is on one line
  Edition.atLineEnd .v12 lexer.cursor.rest
    || (lexer.inFlow && lexer.cursor.rest.head?.any fun c => [',', '\x7d', ']', ':'].contains c)
    || (start.line == lexer.cursor.line && lexer.cursor.rest.head? == some ':')

def takeQuoted? (lexer : Lexer) (quote : Char) : Option Lexer := do
  let lexer ← lexer.markCandidate?
  let start := lexer.cursor
  let (text, cursor) ←
    readQuoted? lexer.scalarPlace quote lexer.size { cursor := start.ahead 1 }
  let lexer := { lexer with cursor := cursor, keyAllowed := false }
  if lexer.edition = .v11 then return lexer.emit (.scalar false text)
  let lexer ← lexer.pastBlanks?
  if !lexer.mayFollowQuoted start then none
  let lexer ← lexer.toNextToken?
  return { lexer with adjacentAt := lexer.cursor.index }.emit (.scalar false text)

/-! ## Tokens -/

/-- Whether a plain scalar may begin with a character that begins no other token. -/
def mayBeginPlain (lexer : Lexer) (c : Char) : Bool :=
  -- anchors, aliases, tags, directives and block scalars are not read
  let beginsOther := ['&', '*', '!', '%', '@', Char.ofNat 0x60].contains c
  let beginsBlock := c == '|' || c == '>'
  !beginsOther
    && match lexer.edition with
      | .v11 => !beginsBlock && c != '\t'
      | .v12 => lexer.inFlow || !beginsBlock

/-- Whether a question mark or a colon before these characters is a token of its own: before a gap,
and in YAML 1.1 anywhere within a flow collection. -/
def isIndicator (lexer : Lexer) (cs : List Char) : Bool :=
  lexer.edition.atGap cs || (lexer.edition == .v11 && lexer.inFlow)

/-- Whether a colon before these characters is a token although no gap follows: within a flow
collection of YAML 1.2, before an indicator or just behind a key that is no plain scalar. -/
def isAdjacentValue (lexer : Lexer) (cs : List Char) : Bool :=
  lexer.edition == .v12 && lexer.inFlow
    && (cs.head?.any isFlowIndicator || lexer.cursor.index == lexer.adjacentAt)

/-- Takes the token that begins with a character, given those behind it. -/
def takeToken? (lexer : Lexer) (c : Char) (cs : List Char) : Option Lexer :=
  if c = '[' then lexer.openFlow? .flowSequenceStart
  else if c = '\x7b' then lexer.openFlow? .flowMappingStart
  else if c = ']' then lexer.closeFlow? .flowSequenceEnd
  else if c = '\x7d' then lexer.closeFlow? .flowMappingEnd
  else if c = ',' then lexer.takeFlowEntry?
  else if c = '-' ∧ lexer.edition.atGap cs then lexer.takeBlockEntry?
  else if c = '?' ∧ lexer.isIndicator cs then lexer.takeKey?
  else if c = ':' ∧ lexer.isIndicator cs then lexer.takeValue?
  else if c = ':' ∧ lexer.isAdjacentValue cs then lexer.takeAdjacentValue? cs
  else if c = '"' ∨ c = '\'' then lexer.takeQuoted? c
  else if lexer.mayBeginPlain c then lexer.takePlain?
  else none

/-- Takes the next token, together with those that come before it because of its column. -/
def take? (lexer : Lexer) : Option Lexer := do
  -- a percent sign that begins a line begins a directive, which is not read
  let lexer ← lexer.toNextToken?
  let lexer ← lexer.dropStale?
  let lexer := lexer.unroll lexer.cursor.column
  match lexer.cursor.rest with
  | [] => lexer.finish?
  | c :: cs =>
    let atStart := lexer.cursor.column = 0
    if atStart ∧ c = '%' then none
    else
      match if atStart then documentMark? lexer.edition (c :: cs) else none with
      | some mark => lexer.takeDocumentMark? mark
      | none =>
        if lexer.edition = .v12 ∧ lexer.cursor.column < lexer.indent then none
        else lexer.takeToken? c cs

/-- The tokens so far, up to the first candidate that may still become a key. -/
def settledTokens (lexer : Lexer) : List Token :=
  let unsettled := (lexer.candidate :: lexer.outerCandidates).filterMap fun candidate =>
    candidate.bind fun key => if lexer.isStale key then none else some key.number
  lexer.reversed.reverse.take (unsettled.foldl min lexer.count)

/-- The tokens from a state on. -/
def run (fuel : Nat) (lexer : Lexer) : List Token :=
  -- every step but the last consumes a character
  match fuel with
  | 0 => lexer.settledTokens
  | fuel + 1 =>
    match lexer.take? with
    | none => lexer.settledTokens
    | some next =>
      if next.reversed.head? = some .streamEnd then next.reversed.reverse else run fuel next

end Lexer

/-- The tokens of a text. -/
def tokens (edition : Edition) (text : String) : List Token :=
  -- they end with the token for the end of the text if the text is without fault, and otherwise
  -- with the last one that could be told in front of the fault
  match edition.prepare? text.toList with
  | some cs =>
    let lexer : Lexer := { edition := edition, size := cs.length, cursor := { rest := cs } }
    lexer.run (cs.length + 1)
  | none => []

end WorkloadGuard.Yaml
