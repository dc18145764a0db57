import WorkloadGuard.Json.Value

/-!
# Writing JSON

Values over several lines: two blanks for each level, one item or member to a line, a blank behind
the colon of a member, and empty lists and objects closed at once. In a text only quotes,
backslashes and control characters are escaped.
-/

namespace WorkloadGuard.Json

/-! ## Texts -/

def twoHexDigits (n : Nat) : List Char :=
  [Nat.digitChar (n / 16), Nat.digitChar (n % 16)]

def escape (c : Char) : List Char :=
  match c with
  | '"' => ['\\', '"']
  | '\\' => ['\\', '\\']
  | '\x08' => ['\\', 'b']
  | '\x0c' => ['\\', 'f']
  | '\n' => ['\\', 'n']
  | '\r' => ['\\', 'r']
  | '\t' => ['\\', 't']
  | c => if c.toNat < 0x20 then '\\' :: 'u' :: '0' :: '0' :: twoHexDigits c.toNat else [c]

def quote (text : String) : String :=
  "\"" ++ String.ofList (text.toList.flatMap escape) ++ "\""

/-! ## Values -/

def indentation (level : Nat) : String :=
  String.ofList (List.replicate (2 * level) ' ')

def bracketed (opening closing : String) (level : Nat) (parts : List String) : String :=
  if parts.isEmpty then opening ++ closing
  else
    opening ++ "\n" ++ String.intercalate ",\n" (parts.map (indentation (level + 1) ++ ·))
      ++ "\n" ++ indentation level ++ closing

mutual

def render (level : Nat) : Value → String
  | .null => "null"
  | .bool true => "true"
  | .bool false => "false"
  | .number spelling => spelling
  | .string text => quote text
  | .array items => bracketed "[" "]" level (renderItems (level + 1) items)
  | .object members => bracketed "\x7b" "\x7d" level (renderMembers (level + 1) members)

def renderItems (level : Nat) : List Value → List String
  | [] => []
  | item :: items => render level item :: renderItems level items

def renderMembers (level : Nat) : List (String × Value) → List String
  | [] => []
  | (name, value) :: members =>
    (quote name ++ ": " ++ render level value) :: renderMembers level members

end

def Value.pretty (value : Value) : String :=
  render 0 value

end WorkloadGuard.Json
