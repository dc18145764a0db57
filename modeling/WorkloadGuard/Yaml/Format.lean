import WorkloadGuard.Json.Value
import WorkloadGuard.Numeral
import WorkloadGuard.Record
import WorkloadGuard.Yaml.Node

/-!
# Reading YAML nodes

Nodes are read in two ways. A policy knows what it wants: a text field takes any scalar by its text,
save a plain one that means nothing; a list may be left empty; a record is a mapping. Settings are
laid over one another before anything is wanted of them, so there a plain scalar is what it looks
like: nothing, a truth value, a number or a text.
-/

namespace WorkloadGuard.Yaml

namespace Node

/-! ## By wish -/

def toText (node : Node) : Except DecodeError String :=
  match node with
  | scalar _ text => if node.isNull then .error (.mistyped "text") else .ok text
  | _ => .error (.mistyped "text")

def toItems (node : Node) : Except DecodeError (List Node) :=
  match node with
  | sequence items => .ok items
  | _ => if node.isNull then .ok [] else .error (.mistyped "list")

def toFields (shape : RecordShape) : Node → Except DecodeError (FieldValues Node)
  | mapping entries => do
    let members ← entries.mapM fun (key, value) => do return (← key.toText, value)
    shape.ofMembers members
  | _ => .error (.mistyped "record")

/-! ## By looks -/

/-- Whether a plain scalar is a number: a decimal numeral that is finite and, unless it is a single
zero, no run of digits that begins with a zero; a whole number in another base of up to 128 bits; or
one of the words for infinity and for no number. -/
def looksNumeric (text : String) : Bool :=
  let unsigned := Numeral.dropSign text.toList
  let paddedDigits := 1 < unsigned.length && unsigned.head? == some '0' && unsigned.all Char.isDigit
  Numeral.isPrefixed text.toList
    || (!paddedDigits && (Numeral.decimal? unsigned).any Numeral.Decimal.isFinite)
    || [".inf", ".Inf", ".INF"].contains (String.ofList unsigned)
    || [".nan", ".NaN", ".NAN"].contains text

def plainValue (text : String) : Json.Value :=
  if ["", "~", "null", "Null", "NULL"].contains text then .null
  else if ["true", "True", "TRUE"].contains text then .bool true
  else if ["false", "False", "FALSE"].contains text then .bool false
  else if looksNumeric text then .number text
  else .string text

mutual

/-- The value that a node looks like, if all its keys are scalars; of two entries with one key the
later counts. -/
def toJson? : Node → Option Json.Value
  | scalar true text => some (plainValue text)
  | scalar false text => some (.string text)
  | sequence items => do return .array (← itemsToJson? items)
  | mapping entries => do return .object (← entriesToJson? entries)

def itemsToJson? : List Node → Option (List Json.Value)
  | [] => some []
  | item :: items => do return (← item.toJson?) :: (← itemsToJson? items)

def entriesToJson? : List (Node × Node) → Option (List (String × Json.Value))
  | [] => some []
  | (scalar _ key, value) :: entries => do
    let value ← value.toJson?
    let members ← entriesToJson? entries
    return if members.any (·.1 == key) then members else (key, value) :: members
  | _ :: _ => none

end

end Node

def format : DocumentFormat Node :=
  ⟨Node.toText, Node.toItems, Node.toFields⟩

end WorkloadGuard.Yaml
