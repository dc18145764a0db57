/-!
# JSON values

A value as it is written: the members of an object keep their order and may repeat a name. Numbers
are kept by their spelling, since no document of this library holds one.
-/

namespace WorkloadGuard.Json

/-- A JSON value. -/
inductive Value where
  | null
  | bool (flag : Bool)
  /-- A number, by its spelling. -/
  | number (spelling : String)
  | string (text : String)
  | array (items : List Value)
  | object (members : List (String × Value))
  deriving Inhabited

def Value.texts (items : List String) : Value :=
  .array (items.map .string)

/-- The value of the member of that name, if the value is an object. A name that is given twice
names no value. Payloads are maps, which keep only the last member of each name that a text repeats,
so an object that repeats a name is no payload and outside of what is asked here. -/
def Value.member? (name : String) : Value → Option Value
  | .object members =>
    match members.filter fun member => member.1 == name with
    | [member] => some member.2
    | _ => none
  | _ => none

end WorkloadGuard.Json
