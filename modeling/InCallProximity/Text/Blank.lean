/-!
# Blank characters

White space in the sense of the Unicode property White_Space, and trimming by it. JSON has a
smaller set of blanks of its own.
-/

namespace InCallProximity.Text

/-- Closed ranges of code points, ascending and apart. -/
def blankRanges : List (Nat × Nat) :=
  [(0x09, 0x0D), (0x20, 0x20), (0x85, 0x85), (0xA0, 0xA0), (0x1680, 0x1680), (0x2000, 0x200A),
    (0x2028, 0x2029), (0x202F, 0x202F), (0x205F, 0x205F), (0x3000, 0x3000)]

/-- The character is white space. -/
def isBlank (c : Char) : Bool :=
  blankRanges.any fun (low, high) => low ≤ c.toNat && c.toNat ≤ high

/-- The text without the blanks that it starts with. -/
def trimStart (text : List Char) : List Char := text.dropWhile isBlank

/-- The text without the blanks at both ends. -/
def trim (text : List Char) : List Char := (trimStart (trimStart text).reverse).reverse

/-- The lines of a text: the parts between line feeds, without an empty one after the last line
feed. -/
def lines (text : List Char) : List (List Char) :=
  text.foldr
    (fun c parts =>
      if c = '\n' then [] :: parts
      else match parts with
        | [] => [[c]]
        | part :: rest => (c :: part) :: rest)
    []

end InCallProximity.Text
