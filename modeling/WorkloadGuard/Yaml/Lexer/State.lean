import WorkloadGuard.Yaml.Scalar

/-!
# The state of the lexer

Two things cannot be told from the characters at hand, and the lexer keeps track of both.

- *Indentation.* The columns of the open block structures are kept, the innermost first. A block
  collection opens with a token in a column to the right of them, and closes with the first token to
  the left of its own. In YAML 1.2 the parts of a collection may be given a column of their own,
  which no token opens or closes.
- *Keys.* That a node is a key is known only at the colon behind it. A token with which a key may
  begin is kept as a candidate, one for every open flow collection and one outside of them; at the
  colon, the token for the key is put in front of it.
-/

namespace WorkloadGuard.Yaml

/-! ## State -/

/-- A column that tokens are held against. -/
structure IndentLevel where
  column : Nat
  isBlock : Bool

/-- A token with which a key may begin. -/
structure KeyCandidate where
  required : Bool
  number : Nat
  /-- The place where it begins. -/
  start : Cursor

/-- Where a lexer stands. -/
structure Lexer where
  edition : Edition
  /-- The number of characters of the text, which is fuel enough for any part of it. -/
  size : Nat
  cursor : Cursor
  /-- The tokens so far, last first. -/
  reversed : List Token := []
  count : Nat := 0
  /-- The open levels of indentation, innermost first. -/
  levels : List IndentLevel := []
  /-- The candidate for a key within the innermost open collection. -/
  candidate : Option KeyCandidate := none
  /-- The candidates around the open flow collections, innermost first. -/
  outerCandidates : List (Option KeyCandidate) := []
  /-- Whether a key may begin here. -/
  keyAllowed : Bool := true
  /-- The index of the place where a colon needs no gap behind it. -/
  adjacentAt : Nat := 0
  /-- For every open flow sequence, innermost first, the depth of flow collections in which a single
  entry of a mapping stands as an item of it. -/
  pairs : List (Option Nat) := []
  /-- Whether entries are taken to belong to a flow mapping, so that none stands alone. -/
  inFlowMapping : Bool := false
  /-- The line of the comment that ended the last plain scalar. -/
  commentedLine : Option Nat := none

namespace Lexer

/-- The column of the innermost level, or one less than the first column. -/
def indent (lexer : Lexer) : Int :=
  match lexer.levels with
  | [] => -1
  | level :: _ => level.column

def depth (lexer : Lexer) : Nat :=
  lexer.outerCandidates.length

def inFlow (lexer : Lexer) : Bool :=
  !lexer.outerCandidates.isEmpty

def emit (lexer : Lexer) (token : Token) : Lexer :=
  { lexer with reversed := token :: lexer.reversed, count := lexer.count + 1 }

def insert (lexer : Lexer) (number : Nat) (token : Token) : Lexer :=
  let later := lexer.count - number
  { lexer with
    reversed := lexer.reversed.take later ++ token :: lexer.reversed.drop later
    count := lexer.count + 1 }

def movedTo (lexer : Lexer) (cursor : Cursor) : Lexer :=
  { lexer with cursor := cursor }

/-- Moves past blanks and a comment, which in YAML 1.2 must stand behind a blank. -/
def pastBlanks? (lexer : Lexer) : Option Lexer :=
  -- in YAML 1.1 they are left to what comes next
  match lexer.edition with
  | .v11 => some lexer
  | .v12 => (lexer.cursor.pastBlanks? .v12).map fun (cursor, _) => lexer.movedTo cursor

/-! ## Indentation -/

def closeLevels (lexer : Lexer) (closed kept : List IndentLevel) : Lexer :=
  let ends := (closed.filter (·.isBlock)).map fun _ => Token.blockEnd
  { lexer with
    levels := kept
    reversed := ends ++ lexer.reversed
    count := lexer.count + ends.length }

def unroll (lexer : Lexer) (column : Nat) : Lexer :=
  if lexer.inFlow then lexer
  else
    lexer.closeLevels (lexer.levels.takeWhile (column < ·.column))
      (lexer.levels.dropWhile (column < ·.column))

def unrollAll (lexer : Lexer) : Lexer :=
  if lexer.inFlow then lexer else lexer.closeLevels lexer.levels []

/-- Drops the innermost level if it is that of no collection and not to the right of a column. -/
def dropInnerLevel (lexer : Lexer) (column : Nat) : Lexer :=
  match lexer.levels with
  | ⟨inner, false⟩ :: levels =>
    if inner ≤ column then { lexer with levels := levels } else lexer
  | _ => lexer

/-- Opens a block collection in a column, unless it is open; its token comes behind the first
`number` others. -/
def roll (lexer : Lexer) (column number : Nat) (token : Token) : Lexer :=
  if lexer.inFlow then lexer
  else
    let lexer := lexer.dropInnerLevel column
    if lexer.indent < column then
      { lexer with levels := ⟨column, true⟩ :: lexer.levels }.insert number token
    else lexer

/-- In YAML 1.2, gives the parts of the innermost block collection a column of their own. -/
def rollInner (lexer : Lexer) : Lexer :=
  match lexer.edition, lexer.inFlow, lexer.levels with
  | .v12, false, ⟨column, true⟩ :: _ =>
    { lexer with levels := ⟨column + 1, false⟩ :: lexer.levels }
  | _, _, _ => lexer

/-! ## Keys -/

/-- Whether a candidate is too far behind for a key: on an earlier line or more than 1024 characters
back. -/
def isStale (lexer : Lexer) (candidate : KeyCandidate) : Bool :=
  -- in YAML 1.2 this does not count within flow collections
  (lexer.edition == .v11 || !lexer.inFlow)
    && (candidate.start.line < lexer.cursor.line
      || candidate.start.index + 1024 < lexer.cursor.index)

/-- Keeps a candidate that is not too far behind; one that must be a key must not be. -/
def freshCandidate? (lexer : Lexer) :
    Option KeyCandidate → Option (Option KeyCandidate)
  | some candidate =>
    if lexer.isStale candidate then if candidate.required then none else some none
    else some (some candidate)
  | none => some none

def dropStale? (lexer : Lexer) : Option Lexer := do
  let candidate ← lexer.freshCandidate? lexer.candidate
  let outer ← lexer.outerCandidates.mapM lexer.freshCandidate?
  return { lexer with candidate := candidate, outerCandidates := outer }

/-- Drops the candidate of the innermost collection, which must not be required. -/
def dropCandidate? (lexer : Lexer) : Option Lexer :=
  if lexer.candidate.any (·.required) then none else some { lexer with candidate := none }

/-- Makes the next token a candidate if a key may begin here. -/
def markCandidate? (lexer : Lexer) : Option Lexer := do
  -- in the column of a block collection it must be a key
  if !lexer.keyAllowed then return lexer
  let lexer ← if lexer.edition = .v11 then lexer.dropCandidate? else some lexer
  let required := !lexer.inFlow && lexer.indent == lexer.cursor.column
    && lexer.levels.head?.any (·.isBlock)
  return { lexer with candidate := some ⟨required, lexer.count, lexer.cursor⟩ }

/-! ## Between tokens -/

/-- Whether a tab here stands where YAML 1.2 wants the indentation of a block collection. -/
def isTabbed (lexer : Lexer) : Bool :=
  !lexer.levels.isEmpty && lexer.cursor.atMargin && lexer.cursor.column < lexer.indent

/-- Whether a blank that comes next is passed over. In YAML 1.1 a tab is not, where a key may begin
outside of flow collections. -/
def passesBlank (lexer : Lexer) (c : Char) : Bool :=
  c == ' ' || (c == '\t' && (lexer.edition == .v12 || lexer.inFlow || !lexer.keyAllowed))

/-- Whether the next character is a byte order mark, which may begin a line in YAML 1.1. -/
def atByteOrderMark (lexer : Lexer) (c : Char) : Bool :=
  lexer.edition == .v11 && c == byteOrderMark && lexer.cursor.column == 0

/-- Passes over blanks, breaks and comments. -/
def passGap? (fuel : Nat) (lexer : Lexer) : Option Lexer :=
  -- a new line outside of flow collections may begin with a key. In YAML 1.2 a tab in the place of
  -- indentation is only for lines that hold nothing else. Every step consumes a character, so the
  -- length of the text is fuel enough
  match lexer.cursor.rest with
  | [] => some lexer
  | c :: _ =>
    match fuel with
    | 0 => none
    | fuel + 1 =>
      if c = '\t' ∧ lexer.edition = .v12 ∧ lexer.isTabbed then do
        let (cursor, _) ← lexer.cursor.pastBlanks? .v12
        if Edition.atLineEnd .v12 cursor.rest then passGap? fuel (lexer.movedTo cursor) else none
      else if lexer.passesBlank c ∨ lexer.atByteOrderMark c then
        passGap? fuel (lexer.movedTo (lexer.cursor.passing 1))
      else if lexer.edition.isBreak c then
        passGap? fuel
          { lexer with
            cursor := lexer.cursor.nextLine, keyAllowed := lexer.keyAllowed || !lexer.inFlow }
      else if c = '#' then
        passGap? fuel (lexer.movedTo (lexer.cursor.lineEnd lexer.edition))
      else some lexer

/-- Whether the next token seems to continue a plain scalar of YAML 1.2 that a comment ended on the
line before. -/
def continuesCommented (lexer : Lexer) : Bool :=
  lexer.commentedLine.any (· + 1 == lexer.cursor.line) && !lexer.inFlow
    && lexer.indent < lexer.cursor.column && !lexer.cursor.rest.isEmpty
    && !(lexer.cursor.column == 0 && (documentMark? lexer.edition lexer.cursor.rest).isSome)

def toNextToken? (lexer : Lexer) : Option Lexer := do
  let lexer ← lexer.passGap? lexer.size
  if lexer.continuesCommented then none
  return { lexer with commentedLine := none }

end Lexer

end WorkloadGuard.Yaml
