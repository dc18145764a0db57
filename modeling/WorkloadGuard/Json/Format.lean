import WorkloadGuard.Json.Value
import WorkloadGuard.Record

/-!
# Records in JSON

A record is an object, or an array of its fields in declaration order from which trailing fields may
be left out. Nothing is converted: a text field takes a text and a flag takes a truth value. Where
values are read leniently, items behind the last field of a record are passed over.
-/

namespace WorkloadGuard.Json.Value

def toText : Value → Except DecodeError String
  | string text => .ok text
  | _ => .error (.mistyped "text")

def toFlag : Value → Except DecodeError Bool
  | bool flag => .ok flag
  | _ => .error (.mistyped "flag")

def toNullableText : Value → Except DecodeError (Option String)
  | null => .ok none
  | string text => .ok (some text)
  | _ => .error (.mistyped "text or null")

def ofNullableText : Option String → Value
  | some text => string text
  | none => null

def toItems : Value → Except DecodeError (List Value)
  | array items => .ok items
  | _ => .error (.mistyped "list")

def toFields (shape : RecordShape) : Value → Except DecodeError (FieldValues Value)
  | object members => shape.ofMembers members
  | array items => shape.ofItems items
  | _ => .error (.mistyped "record")

def toLeadingFields (shape : RecordShape) : Value → Except DecodeError (FieldValues Value)
  | object members => shape.ofMembers members
  | array items => .ok (shape.ofLeadingItems items)
  | _ => .error (.mistyped "record")

end WorkloadGuard.Json.Value

namespace WorkloadGuard.Json

def format : DocumentFormat Value :=
  ⟨Value.toText, Value.toItems, Value.toFields⟩

def lenientFormat : DocumentFormat Value :=
  ⟨Value.toText, Value.toItems, Value.toLeadingFields⟩

end WorkloadGuard.Json
