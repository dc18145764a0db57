import WorkloadGuard.Text
import WorkloadGuard.Yaml.Cursor
import WorkloadGuard.Yaml.Token

/-!
# YAML scalars

Reading plain and quoted scalars. Both may go over several lines, which are then folded: a single
break counts as a blank, a run of breaks as one break less than there are, and the blanks around
them do not count. A break that is escaped, which only double quotes allow, counts as nothing.
-/

namespace WorkloadGuard.Yaml

/-! ## Folding -/

/-- A run of blanks and breaks within a scalar, which counts only if the scalar goes on behind it.
The characters are kept last first. -/
inductive Gap where
  /-- Blanks within a line. -/
  | blanks (characters : List Char)
  /-- The first break, unless it was escaped, and the breaks behind it. -/
  | breaks (first : Option Char) (others : List Char)

namespace Gap

def none : Gap :=
  blanks []

def isEmpty : Gap → Bool
  | blanks characters => characters.isEmpty
  | breaks _ _ => false

def crossesLine : Gap → Bool
  | blanks _ => false
  | breaks _ _ => true

def hasBreak : Gap → Bool
  | blanks _ => false
  | breaks first others => first.isSome || !others.isEmpty

/-- The gap with a blank behind it; next to a break it does not count. -/
def addBlank (c : Char) : Gap → Gap
  | blanks characters => blanks (c :: characters)
  | breaks first others => breaks first others

/-- The gap with a break behind it; blanks in front of the break do not count. -/
def addBreak (c : Char) : Gap → Gap
  | blanks _ => breaks (some c) []
  | breaks first others => breaks first (c :: others)

/-- The characters that the gap counts as, last first. -/
def folded : Gap → List Char
  -- a first break other than a line feed is kept
  | blanks characters => characters
  | breaks (some '\n') [] => [' ']
  | breaks (some '\n') others => others
  | breaks first others => others ++ first.toList

end Gap

/-! ## Reading -/

/-- What surrounds a scalar. -/
structure ScalarPlace where
  edition : Edition
  inFlow : Bool
  /-- The column of the innermost open block structure, or one less than the first column. -/
  indent : Int

/-- What has been read of a scalar. -/
structure ScalarState where
  cursor : Cursor
  /-- The characters, last first. -/
  reversed : List Char := []
  gap : Gap := .none

namespace ScalarState

def settled (state : ScalarState) : List Char :=
  state.gap.folded ++ state.reversed

def atWord (state : ScalarState) : Bool :=
  state.reversed.isEmpty || !state.gap.isEmpty

def push (state : ScalarState) (c : Char) (count : Nat) : ScalarState :=
  { cursor := state.cursor.ahead count, reversed := c :: state.settled }

def pushBlank (state : ScalarState) (c : Char) : ScalarState :=
  { state with cursor := state.cursor.passing 1, gap := state.gap.addBlank c }

def pushBreak (state : ScalarState) (c : Char) : ScalarState :=
  { state with cursor := state.cursor.nextLine, gap := state.gap.addBreak c }

def pushEscapedBreak (state : ScalarState) : ScalarState :=
  { cursor := (state.cursor.ahead 1).nextLine, reversed := state.settled, gap := .breaks none [] }

def text (state : ScalarState) : String :=
  String.ofList state.reversed.reverse

def wholeText (state : ScalarState) : String :=
  String.ofList state.settled.reverse

end ScalarState

/-! ## Plain scalars -/

namespace ScalarPlace

/-- Whether a place is further to the left than what belongs to the block structure. -/
def isOutside (place : ScalarPlace) (cursor : Cursor) : Bool :=
  cursor.column < place.indent + 1

def atDocumentMark (place : ScalarPlace) (cursor : Cursor) : Bool :=
  (match place.edition with
    | .v11 => cursor.column == 0
    | .v12 => cursor.atMargin)
    && (documentMark? place.edition cursor.rest).isSome

/-- Whether a plain scalar ends before a word that would begin here: outside of the block structure,
or with a document mark or a comment. -/
def endsBeforeWord (place : ScalarPlace) (state : ScalarState) : Bool :=
  (!state.gap.isEmpty && !place.inFlow && place.isOutside state.cursor)
    || place.atDocumentMark state.cursor || state.cursor.rest.head? == some '#'

/-- Whether a plain scalar ends before a character, given those behind it: a colon before a gap and,
within a flow collection, an indicator or in YAML 1.2 a colon before one. -/
def endsBeforeChar (place : ScalarPlace) (c : Char) (cs : List Char) : Bool :=
  (c == ':' && (place.edition.atGap cs
      || (place.edition == .v12 && place.inFlow && cs.head?.any isFlowIndicator)))
    || (place.inFlow && isFlowIndicator c)

/-- Whether characters must not occur in a plain scalar within a flow collection: in YAML 1.1 a
colon before an indicator or a question mark, and in YAML 1.2 a word of a dash before an
indicator. -/
def isRefused (place : ScalarPlace) (atWord : Bool) (c : Char) (cs : List Char) : Bool :=
  place.inFlow &&
    match place.edition with
    | .v11 => c == ':' && cs.head?.any fun d => isFlowIndicator d || d == '?'
    | .v12 => atWord && c == '-' && cs.head?.any isFlowIndicator

end ScalarPlace

/-- Reads a plain scalar from a state on. -/
def readPlain? (place : ScalarPlace) (fuel : Nat) (state : ScalarState) : Option ScalarState :=
  -- a tab does not indent: in YAML 1.1 it must not stand where indentation is wanted, and in YAML
  -- 1.2 only on a line that holds nothing else. Every step consumes a character, so the length of
  -- the text is fuel enough
  match state.cursor.rest with
  | [] => some state
  | c :: cs =>
    match fuel with
    | 0 => none
    | fuel + 1 =>
      if place.edition.isBreak c then readPlain? place fuel (state.pushBreak c)
      else if isBlank c then
        if c = '\t' ∧ state.gap.crossesLine ∧ place.isOutside state.cursor then do
          if place.edition = .v11 then none
          let (cursor, _) ← state.cursor.pastBlanks? place.edition
          if place.edition.atLineEnd cursor.rest then
            readPlain? place fuel { state with cursor := cursor }
          else none
        else readPlain? place fuel (state.pushBlank c)
      else if state.atWord ∧ place.endsBeforeWord state then some state
      else if place.isRefused state.atWord c cs then none
      else if place.endsBeforeChar c cs then some state
      else readPlain? place fuel (state.push c 1)

/-! ## Quoted scalars -/

def escaped? : Char → Option Char
  | '0' => some (Char.ofNat 0)
  | 'a' => some '\x07'
  | 'b' => some '\x08'
  | 't' | '\t' => some '\t'
  | 'n' => some '\n'
  | 'v' => some '\x0b'
  | 'f' => some '\x0c'
  | 'r' => some '\r'
  | 'e' => some '\x1b'
  | ' ' => some ' '
  | '"' => some '"'
  | '/' => some '/'
  | '\\' => some '\\'
  | 'N' => some (Char.ofNat 0x85)
  | '_' => some (Char.ofNat 0xA0)
  | 'L' => some (Char.ofNat 0x2028)
  | 'P' => some (Char.ofNat 0x2029)
  | _ => none

/-- The number of hexadecimal digits behind an escape that gives a code point. -/
def codeWidth? : Char → Option Nat
  | 'x' => some 2
  | 'u' => some 4
  | 'U' => some 8
  | _ => none

/-- The character for an escape without its backslash, and how many characters write it. -/
def readEscape? : List Char → Option (Char × Nat)
  | [] => none
  | e :: cs =>
    match codeWidth? e with
    | some width => do
      let (code, _) ← Text.hexNumber? width cs
      return (← Text.charOfCode? code, width + 1)
    | none => (escaped? e).map fun c => (c, 1)

/-- Whether a line of a quoted scalar begins too far to the left: in a block structure of YAML 1.2,
no further to the right than the structure. -/
def ScalarPlace.isOutdented (place : ScalarPlace) (state : ScalarState) : Bool :=
  place.edition == .v12 && !place.inFlow && state.gap.hasBreak
    && state.cursor.column ≤ place.indent

/-- Whether a blank within a quoted scalar is a tab where YAML 1.2 wants indentation. -/
def ScalarPlace.isTabbed (place : ScalarPlace) (state : ScalarState) (c : Char) : Bool :=
  place.edition == .v12 && c == '\t' && state.gap.crossesLine && state.cursor.column < place.indent

/-- Reads the rest of a scalar behind its opening quote, and the place behind the closing one. -/
def readQuoted? (place : ScalarPlace) (quote : Char) (fuel : Nat) (state : ScalarState) :
    Option (String × Cursor) :=
  -- no document mark may begin a line of it. Every step consumes a character, so the length of the
  -- text is fuel enough
  match state.cursor.rest with
  | [] => none
  | c :: cs =>
    match fuel with
    | 0 => none
    | fuel + 1 =>
      if place.edition.isBreak c then readQuoted? place quote fuel (state.pushBreak c)
      else if isBlank c then
        if place.isTabbed state c then none
        else readQuoted? place quote fuel (state.pushBlank c)
      else if state.cursor.column = 0 ∧ (documentMark? place.edition (c :: cs)).isSome then none
      else if c = quote ∧ ¬ (quote = '\'' ∧ cs.head? = some '\'') then
        some (state.wholeText, state.cursor.ahead 1)
      else if place.isOutdented state then none
      else if c = quote then readQuoted? place quote fuel (state.push c 2)
      else if c = '\\' ∧ quote = '"' then
        if cs.head?.any place.edition.isBreak then
          readQuoted? place quote fuel state.pushEscapedBreak
        else do
          let (e, count) ← readEscape? cs
          readQuoted? place quote fuel (state.push e (count + 1))
      else readQuoted? place quote fuel (state.push c 1)

end WorkloadGuard.Yaml
