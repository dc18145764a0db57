import WorkloadGuard.Json.Merge
import WorkloadGuard.Numeral
import WorkloadGuard.Text

/-!
# Values of environment variables

What a variable holds is read as a value if all of it is one: a truth value; a list between brackets
or named values between braces, with commas between the parts; a text between double quotes, or a
single character between single quotes; and any other run of characters up to a comma, bracket or
brace, which is a number if it looks like one. What is no such value is a text as it stands.
-/

namespace WorkloadGuard.EnvironmentValue

open Json (Value)

/-! ## Texts -/

def escaped? : Char → Option Char
  | 'b' => some '\x08'
  | 't' => some '\t'
  | 'n' => some '\n'
  | 'f' => some '\x0c'
  | 'r' => some '\r'
  | '"' => some '"'
  | '\\' => some '\\'
  | _ => none

/-- The character for an escape without its backslash, and what follows it. -/
def readEscape? : List Char → Option (Char × List Char)
  | 'u' :: cs => do
    let (code, rest) ← Text.hexNumber? 4 cs
    return (← Text.charOfCode? code, rest)
  | 'U' :: cs => do
    let (code, rest) ← Text.hexNumber? 8 cs
    return (← Text.charOfCode? code, rest)
  | c :: cs => (escaped? c).map fun e => (e, cs)
  | [] => none

/-- Whether a character may stand for itself between double quotes: any but the control characters
other than the tab. -/
def isQuotable (c : Char) : Bool :=
  c == '\t' || (0x20 ≤ c.toNat && c.toNat != 0x7F)

/-- Reads the rest of a text behind its opening quote, and what follows the closing one. -/
def readQuoted? (fuel : Nat) : List Char → Option (List Char × List Char)
  -- every step consumes a character, so the length of the text is fuel enough
  | [] => none
  | c :: cs =>
    match fuel with
    | 0 => none
    | fuel + 1 =>
      if c = '"' then some ([], cs)
      else if c = '\\' then do
        let (e, rest) ← readEscape? cs
        let (inside, rest) ← readQuoted? fuel rest
        return (e :: inside, rest)
      else if isQuotable c then do
        let (inside, rest) ← readQuoted? fuel cs
        return (c :: inside, rest)
      else none

def readText? : List Char → Option (String × List Char)
  | '"' :: cs => (readQuoted? cs.length cs).map fun (inside, rest) => (String.ofList inside, rest)
  | _ => none

/-! ## Bare values -/

def isSeparator (c : Char) : Bool :=
  c == ',' || c == '[' || c == ']' || c == '\x7b' || c == '\x7d'

def isBelow (bound : Nat) (digits : List Char) : Bool :=
  !digits.isEmpty && digits.all Char.isDigit && Nat.blt (Numeral.valueOfDigits digits) bound

/-- Whether characters write a whole number of 64 bits: an unsigned one, or a signed one behind a
minus sign. -/
def isInteger : List Char → Bool
  | '-' :: cs => isBelow (Nat.pow 2 63 + 1) cs
  | '+' :: cs => isBelow (Nat.pow 2 64) cs
  | cs => isBelow (Nat.pow 2 64) cs

/-- Whether characters write a number: a whole one, or a decimal numeral with a point. -/
def isNumber (cs : List Char) : Bool :=
  isInteger cs || (cs.contains '.' && (Numeral.decimal? (Numeral.dropSign cs)).isSome)

def bareValue (cs : List Char) : Value :=
  let text := Text.trim (String.ofList cs)
  if isNumber text.toList then .number text else .string text

/-! ## Values -/

def dropBlanks (cs : List Char) : List Char :=
  cs.dropWhile fun c => c == ' ' || c == '\t'

def isNameChar (c : Char) : Bool :=
  c.isAlphanum || c == '_' || c == '-'

/-- Reads the name of a value, with or without quotes, and what follows it. -/
def readName? (cs : List Char) : Option (String × List Char) :=
  if cs.head? = some '"' then readText? cs
  else
    let (name, rest) := cs.span isNameChar
    if name.isEmpty then none else some (String.ofList name, rest)

mutual

def readValue? (fuel : Nat) (cs : List Char) : Option (Value × List Char) :=
  match fuel with
  | 0 => none
  | fuel + 1 =>
    match Text.dropLeadChars? "true".toList cs, Text.dropLeadChars? "false".toList cs with
    | some rest, _ => some (.bool true, rest)
    | none, some rest => some (.bool false, rest)
    | none, none =>
      match cs with
      | '\x7b' :: cs => (readMembers? fuel [] cs).map fun (members, rest) => (.object members, rest)
      | '[' :: cs => (readItems? fuel cs).map fun (items, rest) => (.array items, rest)
      | '"' :: cs => (readText? ('"' :: cs)).map fun (text, rest) => (.string text, rest)
      | '\'' :: c :: '\'' :: rest => some (.string (String.singleton c), rest)
      | '\'' :: _ => none
      | cs =>
        let (bare, rest) := cs.span (!isSeparator ·)
        some (bareValue bare, rest)

/-- Reads the items of a list up to its closing bracket, behind the opening one or behind a
comma. -/
def readItems? (fuel : Nat) (cs : List Char) : Option (List Value × List Char) :=
  match fuel, cs with
  | _, ']' :: rest => some ([], rest)
  | 0, _ => none
  | fuel + 1, cs => do
    let (item, cs) ← readValue? fuel (dropBlanks cs)
    match dropBlanks cs with
    | ']' :: rest => return ([item], rest)
    | ',' :: cs => do
      let (items, rest) ← readItems? fuel cs
      return (item :: items, rest)
    | _ => none

/-- Reads named values up to the closing brace, behind the opening one or behind a comma. -/
def readMembers? (fuel : Nat) (members : List (String × Value)) (cs : List Char) :
    Option (List (String × Value) × List Char) :=
  -- of two with one name the later counts
  match fuel, cs with
  | _, '\x7d' :: rest => some (members, rest)
  | 0, _ => none
  | fuel + 1, cs => do
    let (name, cs) ← readName? (dropBlanks cs)
    let '=' :: cs := dropBlanks cs | none
    let (value, cs) ← readValue? fuel (dropBlanks cs)
    let members := Json.putMember members name value
    match dropBlanks cs with
    | '\x7d' :: rest => return (members, rest)
    | ',' :: cs => readMembers? fuel members cs
    | _ => none

end

/-- The value that a variable holds. -/
def ofText (content : String) : Value :=
  -- two steps at most are taken for a character
  let cs := content.toList
  match readValue? (2 * cs.length + 2) cs with
  | some (value, []) => value
  | _ => .string content

end WorkloadGuard.EnvironmentValue
