import WorkloadGuard.Json.Value
import WorkloadGuard.Text

/-!
# Reading JSON

The strict grammar: no comments, no trailing commas, no raw control characters in texts, nothing but
blanks around the value. A text may escape half a surrogate pair; that is no Unicode text, so the
text, or the object that has it as a member name, reads as `null`, which no field accepts.

Every step consumes a character or opens a value, so twice the length of the text bounds the number
of steps.
-/

namespace WorkloadGuard.Json

/-! ## Blanks and words -/

def isBlank (c : Char) : Bool :=
  c == ' ' || c == '\t' || c == '\n' || c == '\r'

def skipBlanks (cs : List Char) : List Char :=
  cs.dropWhile isBlank

/-! ## Texts -/

def unitsOf (c : Char) : List Nat :=
  let n := c.toNat
  if n < 0x10000 then [n] else [0xD800 + (n - 0x10000) / 0x400, 0xDC00 + (n - 0x10000) % 0x400]

/-- The text written by UTF-16 units, if every surrogate has its partner. -/
def textOfUnits? : List Nat → Option (List Char)
  | [] => some []
  | high :: low :: rest =>
    if 0xD800 ≤ high ∧ high < 0xDC00 then
      if 0xDC00 ≤ low ∧ low < 0xE000 then do
        let c ← Text.charOfCode? (0x10000 + (high - 0xD800) * 0x400 + (low - 0xDC00))
        return c :: (← textOfUnits? rest)
      else none
    else do
      let c ← Text.charOfCode? high
      return c :: (← textOfUnits? (low :: rest))
  | [unit] => (Text.charOfCode? unit).map ([·])

def escaped? : Char → Option Char
  | '"' => some '"'
  | '\\' => some '\\'
  | '/' => some '/'
  | 'b' => some '\x08'
  | 'f' => some '\x0c'
  | 'n' => some '\n'
  | 'r' => some '\r'
  | 't' => some '\t'
  | _ => none

/-- Reads the rest of a text behind its opening quote, as UTF-16 units. -/
def readUnits? : List Char → Option (List Nat × List Char)
  | '"' :: cs => some ([], cs)
  | '\\' :: 'u' :: a :: b :: c :: d :: cs => do
    let (unit, _) ← Text.hexNumber? 4 [a, b, c, d]
    let (units, rest) ← readUnits? cs
    return (unit :: units, rest)
  | '\\' :: e :: cs => do
    let c ← escaped? e
    let (units, rest) ← readUnits? cs
    return (unitsOf c ++ units, rest)
  | c :: cs =>
    if c.toNat < 0x20 ∨ c = '\\' then none
    else do
      let (units, rest) ← readUnits? cs
      return (unitsOf c ++ units, rest)
  | [] => none

/-- Reads the rest of a text behind its opening quote; the text is missing if it is no Unicode
text. -/
def readText? (cs : List Char) : Option (Option String × List Char) := do
  let (units, rest) ← readUnits? cs
  return ((textOfUnits? units).map String.ofList, rest)

/-! ## Numbers -/

def readDigits? (cs : List Char) : Option (List Char × List Char) :=
  match cs.span Char.isDigit with
  | ([], _) => none
  | parts => some parts

/-- Reads the digits before the point; only zero itself begins with a zero. -/
def readWhole? : List Char → Option (List Char × List Char)
  | '0' :: cs => some (['0'], cs)
  | cs => readDigits? cs

def readFraction? : List Char → Option (List Char × List Char)
  | '.' :: cs => (readDigits? cs).map fun (digits, rest) => ('.' :: digits, rest)
  | cs => some ([], cs)

def readExponent? : List Char → Option (List Char × List Char)
  | e :: cs =>
    if e = 'e' ∨ e = 'E' then
      match cs with
      | '+' :: cs => (readDigits? cs).map fun (digits, rest) => (e :: '+' :: digits, rest)
      | '-' :: cs => (readDigits? cs).map fun (digits, rest) => (e :: '-' :: digits, rest)
      | cs => (readDigits? cs).map fun (digits, rest) => (e :: digits, rest)
    else some ([], e :: cs)
  | [] => some ([], [])

def readNumber? (cs : List Char) : Option (String × List Char) := do
  let (sign, cs) := match cs with
    | '-' :: cs => (['-'], cs)
    | cs => ([], cs)
  let (whole, cs) ← readWhole? cs
  let (fraction, cs) ← readFraction? cs
  let (exponent, cs) ← readExponent? cs
  return (String.ofList (sign ++ whole ++ fraction ++ exponent), cs)

/-! ## Values -/

/-- Adds a member to an object that has been read. -/
def addMember (name : Option String) (value : Value) (rest : Option (List (String × Value))) :
    Option (List (String × Value)) := do
  -- a name or an object that is no Unicode text makes the whole read as `null`
  return (← name, value) :: (← rest)

mutual

def readValue? (fuel : Nat) (cs : List Char) : Option (Value × List Char) :=
  match fuel with
  | 0 => none
  | fuel + 1 =>
    match skipBlanks cs with
    | 'n' :: 'u' :: 'l' :: 'l' :: cs => some (.null, cs)
    | 't' :: 'r' :: 'u' :: 'e' :: cs => some (.bool true, cs)
    | 'f' :: 'a' :: 'l' :: 's' :: 'e' :: cs => some (.bool false, cs)
    | '"' :: cs => do
      let (text, rest) ← readText? cs
      return ((text.map Value.string).getD .null, rest)
    | '[' :: cs =>
      match skipBlanks cs with
      | ']' :: rest => some (.array [], rest)
      | cs => do
        let (items, rest) ← readItems? fuel cs
        return (.array items, rest)
    | '{' :: cs =>
      match skipBlanks cs with
      | '}' :: rest => some (.object [], rest)
      | cs => do
        let (members, rest) ← readMembers? fuel cs
        return ((members.map Value.object).getD .null, rest)
    | cs => do
      let (spelling, rest) ← readNumber? cs
      return (.number spelling, rest)

def readItems? (fuel : Nat) (cs : List Char) : Option (List Value × List Char) :=
  match fuel with
  | 0 => none
  | fuel + 1 => do
    let (value, cs) ← readValue? fuel cs
    match skipBlanks cs with
    | ',' :: cs =>
      let (items, rest) ← readItems? fuel cs
      return (value :: items, rest)
    | ']' :: rest => return ([value], rest)
    | _ => none

def readMembers? (fuel : Nat) (cs : List Char) :
    Option (Option (List (String × Value)) × List Char) :=
  match fuel with
  | 0 => none
  | fuel + 1 =>
    match skipBlanks cs with
    | '"' :: cs => do
      let (name, cs) ← readText? cs
      match skipBlanks cs with
      | ':' :: cs =>
        let (value, cs) ← readValue? fuel cs
        match skipBlanks cs with
        | ',' :: cs =>
          let (members, rest) ← readMembers? fuel cs
          return (addMember name value members, rest)
        | '}' :: rest => return (addMember name value (some []), rest)
        | _ => none
      | _ => none
    | _ => none

end

def parse? (text : String) : Option Value := do
  let (value, rest) ← readValue? (2 * text.toList.length + 2) text.toList
  if (skipBlanks rest).isEmpty then some value else none

end WorkloadGuard.Json
