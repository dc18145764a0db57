/-!
# Records

How values of fixed fields are read from documents, whatever the format of the document. A record
has named fields; a field may be given once, and a field with a default may be left out. Names that
are no fields are refused by closed records and passed over by open ones.
-/

namespace WorkloadGuard

/-- Why a document is not of the wanted form. -/
inductive DecodeError where
  | mistyped (expected : String)
  | unknownField (name : String)
  | missingField (name : String)
  | repeatedField (name : String)
  | tooManyItems
  deriving DecidableEq, Repr

/-- The fields of a record. -/
structure RecordShape where
  fields : List String
  closed : Bool

/-! ## Field values -/

/-- The values of the fields of a record; a field that is left out has none. -/
abbrev FieldValues (δ : Type) : Type :=
  String → Except DecodeError (Option δ)

variable {δ : Type}

def onlyMember? (members : List (String × δ)) (name : String) :
    Except DecodeError (Option δ) :=
  match members.filter fun member => member.1 == name with
  | [] => .ok none
  | [member] => .ok (some member.2)
  | _ => .error (.repeatedField name)

namespace RecordShape

def ofMembers (shape : RecordShape) (members : List (String × δ)) :
    Except DecodeError (FieldValues δ) :=
  match members.find? fun member => shape.closed && !shape.fields.contains member.1 with
  | some member => .error (.unknownField member.1)
  | none => .ok (onlyMember? members)

/-- The fields that are given by position; those at the end may be left out, and items behind the
last field are passed over. -/
def ofLeadingItems (shape : RecordShape) (items : List δ) : FieldValues δ :=
  fun name => .ok items[shape.fields.idxOf name]?

/-- The fields that are given by position, of which there must be no more than there are fields. -/
def ofItems (shape : RecordShape) (items : List δ) : Except DecodeError (FieldValues δ) :=
  if items.length ≤ shape.fields.length then .ok (shape.ofLeadingItems items)
  else .error .tooManyItems

end RecordShape

namespace FieldValues

variable {α : Type}

def required (fields : FieldValues δ) (name : String) (decode : δ → Except DecodeError α) :
    Except DecodeError α := do
  match ← fields name with
  | some value => decode value
  | none => .error (.missingField name)

/-- Reads a field that may be left out; a field that is given must be of its type. -/
def defaulted (fields : FieldValues δ) (name : String) (default : α)
    (decode : δ → Except DecodeError α) : Except DecodeError α := do
  match ← fields name with
  | some value => decode value
  | none => .ok default

end FieldValues

/-! ## Formats -/

/-- How a format of documents shows texts, lists and records. -/
structure DocumentFormat (δ : Type) where
  /-- Reads a text. -/
  text : δ → Except DecodeError String
  items : δ → Except DecodeError (List δ)
  fields : RecordShape → δ → Except DecodeError (FieldValues δ)

def DocumentFormat.listOf {α : Type} (format : DocumentFormat δ)
    (decode : δ → Except DecodeError α) (document : δ) : Except DecodeError (List α) := do
  let items ← format.items document
  items.mapM decode

end WorkloadGuard
