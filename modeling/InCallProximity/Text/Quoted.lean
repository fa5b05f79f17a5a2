import InCallProximity.Text.Hidden

/-!
# Quotations in messages

A text inside a message stands between double quotes. Quotes, backslashes and the common controls
are written with a backslash and a letter; any other character without a picture of its own is
written as its code point in braces.
-/

namespace InCallProximity.Text

/-- A character inside a quotation. -/
def quoteChar (c : Char) : List Char :=
  match c with
  | '"' => ['\\', '"']
  | '\\' => ['\\', '\\']
  | '\x00' => ['\\', '0']
  | '\t' => ['\\', 't']
  | '\n' => ['\\', 'n']
  | '\r' => ['\\', 'r']
  | c =>
    if c.toNat < 0x20 || isHidden c then
      ['\\', 'u', '\x7b'] ++ Nat.toDigits 16 c.toNat ++ ['\x7d']
    else [c]

/-- A text as a quotation. -/
def quoted (s : String) : String :=
  String.ofList ('"' :: s.toList.flatMap quoteChar ++ ['"'])

end InCallProximity.Text
