import InCallProximity.Json.Document
import InCallProximity.Json.Problem

/-!
# JSON values

A value is a document without faults: every string and number has a value, and arrays and objects
nest no deeper than a limit. Objects keep their members in the order of the text, repeated ones
included; `Value.collapse` is the value as a table, where the last of repeated members stands and
members are in the order of their names.

A document can be read in two ways. `Document.keep` makes a value of it, `Document.ignore` only
goes through it. Both meet the faults of the document in the order of the text.
-/

namespace InCallProximity.Json

/-- A JSON value that was read without a fault. -/
inductive Value where
  | null
  | bool (b : Bool)
  | number (n : Number)
  | text (s : String)
  | array (items : List Value)
  | object (members : List (String × Value))

/-- How deep arrays and objects may nest in a text. -/
def nestingLimit : Nat := 127

/-! ## Reading values from documents -/

/-- The first fault that ends a container, if any. -/
def close (fault : Option Fault) : Except Problem Unit :=
  match fault with
  | none => .ok ()
  | some fault => .error (.fault fault)

namespace Scalar

/-- The value of a scalar for one who keeps it. -/
def keep : Scalar → Except Problem Value
  | .null => .ok .null
  | .bool b => .ok (.bool b)
  | .number (some n) => .ok (.number n)
  | .text (some s) => .ok (.text s)
  | .number none | .text none => .error (.fault .malformed)
  | .brokenText keeping _ | .broken keeping _ => .error (.fault keeping)
  | .absent fault => .error (.fault fault)

/-- A scalar for one who does not look at its value. -/
def ignore : Scalar → Except Problem Unit
  | .null | .bool _ | .number _ | .text _ => .ok ()
  | .brokenText _ ignoring | .broken _ ignoring => .error (.fault ignoring)
  | .absent fault => .error (.fault fault)

end Scalar

namespace Document

/-- The name that stands where a key is due. -/
def name : Document → Except Problem String
  | .scalar (.text (some s)) => .ok s
  | .scalar (.brokenText keeping _) => .error (.fault keeping)
  | .scalar (.absent fault) => .error (.fault fault)
  | _ => .error (.fault .malformed)

/-- The name that stands where a key is due, for one who does not look at it. -/
def ignoreName : Document → Except Problem Unit
  | .scalar (.text _) => .ok ()
  | .scalar (.brokenText _ ignoring) => .error (.fault ignoring)
  | .scalar (.absent fault) => .error (.fault fault)
  | _ => .error (.fault .malformed)

mutual

/-- The value of a document in which arrays and objects may nest `depth` deep. -/
def keep (depth : Nat) : Document → Except Problem Value
  | .scalar s => s.keep
  | .array items fault =>
    match depth with
    | 0 => .error (.fault .malformed)
    | depth + 1 => do
      let items ← keepItems depth items
      close fault
      return .array items
  | .object members fault =>
    match depth with
    | 0 => .error (.fault .malformed)
    | depth + 1 => do
      let members ← keepMembers depth members
      close fault
      return .object members

/-- The values of items, up to the first that has none. -/
def keepItems (depth : Nat) : List Document → Except Problem (List Value)
  | [] => .ok []
  | d :: rest => do
    let item ← keep depth d
    let items ← keepItems depth rest
    return item :: items

/-- The names and values of members, up to the first that has none. -/
def keepMembers (depth : Nat) : List (Document × Document) → Except Problem (List (String × Value))
  | [] => .ok []
  | (key, d) :: rest => do
    let key ← key.name
    let value ← keep depth d
    let members ← keepMembers depth rest
    return (key, value) :: members

end

mutual

/-- Goes through a document whose value is not wanted. -/
def ignore : Document → Except Problem Unit
  | .scalar s => s.ignore
  | .array items fault => do
    ignoreItems items
    close fault
  | .object members fault => do
    ignoreMembers members
    close fault

/-- Goes through items. -/
def ignoreItems : List Document → Except Problem Unit
  | [] => .ok ()
  | d :: rest => do
    ignore d
    ignoreItems rest

/-- Goes through members, the key of each before its value. -/
def ignoreMembers : List (Document × Document) → Except Problem Unit
  | [] => .ok ()
  | (key, d) :: rest => do
    key.ignoreName
    ignore d
    ignoreMembers rest

end

end Document

/-- Reads a text with a reader of documents. What follows a value that was read is a fault. -/
def readText {α : Type} (read : Document → Except Problem α) (text : List Char) :
    Except Problem α := do
  let reading := Reading.ofText text
  let result ← read reading.document
  if reading.excess then .error (.fault .malformed) else return result

/-- Reads a text as one value. -/
def Value.ofText (text : List Char) : Except Problem Value :=
  readText (Document.keep nestingLimit) text

/-! ## Values as tables -/

namespace Value

/-- Puts a member into a list of members in the order of their names, in place of one of that
name. -/
def insert (name : String) (v : Value) : List (String × Value) → List (String × Value)
  | [] => [(name, v)]
  | (other, w) :: rest =>
    if name = other then (name, v) :: rest
    else if name < other then (name, v) :: (other, w) :: rest
    else (other, w) :: insert name v rest

/-- The members in the order of their names, each with its last value. -/
def table (members : List (String × Value)) : List (String × Value) :=
  members.foldl (fun table member => insert member.1 member.2 table) []

mutual

/-- The value with every object as a table. -/
def collapse : Value → Value
  | .array items => .array (collapseItems items)
  | .object members => .object (table (collapseMembers members))
  | v => v

/-- The items with every object inside them as a table. -/
def collapseItems : List Value → List Value
  | [] => []
  | v :: rest => collapse v :: collapseItems rest

/-- The members with every object inside them as a table; they are not put in order themselves. -/
def collapseMembers : List (String × Value) → List (String × Value)
  | [] => []
  | (name, v) :: rest => (name, collapse v) :: collapseMembers rest

end

/-- The last member of a name, if the value is an object that has one. -/
def member? (name : String) : Value → Option Value
  | .object members => (members.reverse.find? (·.1 = name)).map (·.2)
  | _ => none

end Value

end InCallProximity.Json
