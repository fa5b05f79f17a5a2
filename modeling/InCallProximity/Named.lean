/-!
# Constants with names

The kinds and states of the domain are written by their names: lower-case words joined by
underscores on the wire, the same words capitalised and joined in displays.
-/

namespace InCallProximity

/-- A type whose values are constants with names. -/
class Named (α : Type) where
  /-- all values, in the order in which messages list them -/
  all : List α
  name : α → String

namespace Named

variable {α : Type} [Named α]

/-- The constant of a name. -/
def ofName? (s : String) : Option α := all.find? (name · = s)

/-- Capitalises each of the words that underscores join, and joins them without underscores.
`atStart` says that the next letter starts a word. -/
def capitalise : (atStart : Bool) → List Char → List Char
  | _, [] => []
  | atStart, c :: rest =>
    if c = '_' then capitalise true rest
    else (if atStart then c.toUpper else c) :: capitalise false rest

/-- The name of a constant in displays. -/
def title (a : α) : String := String.ofList (capitalise true (name a).toList)

end Named

/-- A record in a display: its title, and its parts with their names. -/
def displayRecord (title : String) (parts : List (String × String)) : String :=
  if parts.isEmpty then title
  else
    let written := parts.map fun (name, text) => name ++ ": " ++ text
    title ++ " \x7b " ++ String.intercalate ", " written ++ " \x7d"

/-- A flag in a display. -/
def displayBool (b : Bool) : String := if b then "true" else "false"

end InCallProximity
