/-!
# Writing JSON

`Printed` is a JSON value that is ready to be written: numbers carry their digits, and members
keep their order. `Printed.render` writes it without blanks. In strings only quotes, backslashes
and controls are escaped.
-/

namespace InCallProximity.Json

/-- A JSON value that is ready to be written. -/
inductive Printed where
  | null
  | bool (b : Bool)
  | number (digits : List Char)
  | text (s : String)
  | array (items : List Printed)
  | object (members : List (String × Printed))

namespace Printed

/-- The last hexadecimal digit of an integer. -/
def hexDigit (n : Nat) : Char := Nat.digitChar (n % 16)

/-- A character inside a string. -/
def escape (c : Char) : List Char :=
  match c with
  | '"' => ['\\', '"']
  | '\\' => ['\\', '\\']
  | '\x08' => ['\\', 'b']
  | '\x0c' => ['\\', 'f']
  | '\n' => ['\\', 'n']
  | '\r' => ['\\', 'r']
  | '\t' => ['\\', 't']
  | c =>
    if c.toNat < 0x20 then ['\\', 'u', '0', '0', hexDigit (c.toNat / 16), hexDigit c.toNat]
    else [c]

/-- A string in quotes, with what has to be escaped. -/
def quote (s : String) : List Char := '"' :: s.toList.flatMap escape ++ ['"']

mutual

/-- Writes a value without blanks. -/
def render : Printed → List Char
  | .null => ['n', 'u', 'l', 'l']
  | .bool true => ['t', 'r', 'u', 'e']
  | .bool false => ['f', 'a', 'l', 's', 'e']
  | .number digits => digits
  | .text s => quote s
  | .array items => '[' :: renderItems items ++ [']']
  | .object members => '\x7b' :: renderMembers members ++ ['\x7d']

/-- Writes items with commas between them. -/
def renderItems : List Printed → List Char
  | [] => []
  | [item] => render item
  | item :: rest => render item ++ ',' :: renderItems rest

/-- Writes members with commas between them. -/
def renderMembers : List (String × Printed) → List Char
  | [] => []
  | [(name, value)] => quote name ++ ':' :: render value
  | (name, value) :: rest => quote name ++ ':' :: render value ++ ',' :: renderMembers rest

end

/-- An integer in decimal digits. -/
def nat (n : Nat) : Printed := .number (Nat.toDigits 10 n)

end Printed

end InCallProximity.Json
