import WorkloadGuard.Yaml.Edition

/-!
# Places in a YAML text

A cursor is what is still to be read of a text, together with the place where it begins. Lines and
columns count from zero, and a column counts characters.
-/

namespace WorkloadGuard.Yaml

/-- A place in a text. -/
structure Cursor where
  rest : List Char
  /-- The number of breaks before the place. -/
  line : Nat := 0
  /-- The number of characters before it on its line. -/
  column : Nat := 0
  index : Nat := 0
  /-- Whether there are only blanks before it on its line. -/
  atMargin : Bool := true

namespace Cursor

/-- The place behind `count` characters that are neither blanks nor breaks. -/
def ahead (cursor : Cursor) (count : Nat) : Cursor :=
  { cursor with
    rest := cursor.rest.drop count
    column := cursor.column + count
    index := cursor.index + count
    atMargin := false }

/-- The place behind `count` characters that do not count as content of the line. -/
def passing (cursor : Cursor) (count : Nat) : Cursor :=
  { cursor with
    rest := cursor.rest.drop count
    column := cursor.column + count
    index := cursor.index + count }

def nextLine (cursor : Cursor) : Cursor :=
  { rest := cursor.rest.drop 1
    line := cursor.line + 1
    index := cursor.index + 1 }

def lineEnd (edition : Edition) (cursor : Cursor) : Cursor :=
  cursor.passing (cursor.rest.takeWhile (!edition.isBreak ·)).length

/-- The place behind the blanks that come next and the comment behind them, with these blanks. -/
def pastBlanks? (edition : Edition) (cursor : Cursor) : Option (Cursor × List Char) :=
  -- a comment must stand behind a blank
  let blanks := cursor.rest.takeWhile isBlank
  let behind := cursor.passing blanks.length
  if behind.rest.head? = some '#' then
    if blanks.isEmpty then none else some (behind.lineEnd edition, blanks)
  else some (behind, blanks)

end Cursor

end WorkloadGuard.Yaml
