import InCallProximity.Json.Token

/-!
# JSON documents

A document is what a text shows when it is read from left to right, up to the place where it
breaks off, if it does: the containers that were open there are closed with the fault that stopped
the reading. So every text has a document, and a reader of values meets a fault exactly when it
comes to the place of the fault. That matters because a reader can object to a value before the
text goes wrong, or to the kind of a value without looking at its parts.

Documents are built by a machine over the tokens. Its states say what may come next, with the
containers that are open around it; the document of a text is a left fold over its tokens.
-/

namespace InCallProximity.Json

/-- A JSON value as far as it could be read. The keys of an object are documents too, since
something else may stand where a key is due. A container ends with a fault if it was never closed
properly. -/
inductive Document where
  | scalar (s : Scalar)
  | array (items : List Document) (fault : Option Fault)
  | object (members : List (Document × Document)) (fault : Option Fault)

namespace Document

/-- Stands for a value that is missing. -/
def missing (fault : Fault) : Document := .scalar (.absent fault)

/-- A container that is open around the place of reading, with what it holds so far, newest
first. -/
inductive Frame where
  | array (items : List Document)
  /-- an object whose value for `key` is being read -/
  | object (members : List (Document × Document)) (key : Document)

/-- What may come next, inside which open containers. -/
inductive Builder where
  /-- a value -/
  | value (around : List Frame)
  /-- the first item of an array, or its end -/
  | firstItem (around : List Frame)
  /-- a comma in an array, or its end -/
  | afterItem (items : List Document) (around : List Frame)
  /-- the first key of an object, or its end -/
  | firstKey (around : List Frame)
  /-- a further key of an object -/
  | nextKey (members : List (Document × Document)) (around : List Frame)
  /-- the colon after a key -/
  | colon (members : List (Document × Document)) (key : Document) (around : List Frame)
  /-- a comma in an object, or its end -/
  | afterMember (members : List (Document × Document)) (around : List Frame)
  /-- nothing: the value is complete -/
  | complete (d : Document)
  /-- something came after the complete value -/
  | excess (d : Document)
  /-- the reading stopped at a fault -/
  | stopped (d : Document)

namespace Builder

/-- Hands a complete value to the container around it. -/
def deliver (d : Document) : List Frame → Builder
  | [] => .complete d
  | .array items :: around => .afterItem (d :: items) around
  | .object members key :: around => .afterMember ((key, d) :: members) around

/-- Ends all open containers around a value that could not be completed. -/
def enclose (d : Document) : List Frame → Document
  | [] => d
  | .array items :: around => enclose (.array (d :: items).reverse (some .truncated)) around
  | .object members key :: around =>
    enclose (.object ((key, d) :: members).reverse (some .truncated)) around

/-- The document if the reading stops here with a fault. -/
def halt (fault : Fault) : Builder → Document
  | .value around => enclose (missing fault) around
  | .firstItem around => enclose (.array [] (some fault)) around
  | .afterItem items around => enclose (.array items.reverse (some fault)) around
  | .firstKey around => enclose (.object [] (some fault)) around
  | .nextKey members around =>
    enclose (.object ((missing fault, missing fault) :: members).reverse (some fault)) around
  | .colon members key around =>
    enclose (.object ((key, missing fault) :: members).reverse (some fault)) around
  | .afterMember members around => enclose (.object members.reverse (some fault)) around
  | .complete d | .excess d | .stopped d => d

/-- The document if something other than a string stands where a key is due. -/
def badKey (key : Document) (members : List (Document × Document)) (around : List Frame) :
    Builder :=
  .stopped (enclose
    (.object ((key, missing .malformed) :: members).reverse (some .malformed)) around)

/-- Reads a key, after a brace or a comma. -/
def readKey (members : List (Document × Document)) (around : List Frame) : Token → Builder
  | .scalar (.text s) => .colon members (.scalar (.text s)) around
  | .scalar s => badKey (.scalar s) members around
  | .openArray => badKey (.array [] (some .malformed)) members around
  | .openObject => badKey (.object [] (some .malformed)) members around
  | _ => badKey (missing .malformed) members around

/-- Reads the token that a value starts with. -/
def readValue? (around : List Frame) : Token → Option Builder
  | .scalar s => some (deliver (.scalar s) around)
  | .openArray => some (.firstItem around)
  | .openObject => some (.firstKey around)
  | _ => none

/-- Reads a token, if it may stand here. -/
def advance? : Builder → Token → Option Builder
  | .value around, token => readValue? around token
  | .firstItem around, .closeArray => some (deliver (.array [] none) around)
  | .firstItem around, token => readValue? (.array [] :: around) token
  | .afterItem items around, .comma => some (.value (.array items :: around))
  | .afterItem items around, .closeArray => some (deliver (.array items.reverse none) around)
  | .firstKey around, .closeObject => some (deliver (.object [] none) around)
  | .firstKey around, token => some (readKey [] around token)
  | .nextKey members around, token => some (readKey members around token)
  | .colon members key around, .colon => some (.value (.object members key :: around))
  | .afterMember members around, .comma => some (.nextKey members around)
  | .afterMember members around, .closeObject =>
    some (deliver (.object members.reverse none) around)
  | .complete d, _ => some (.excess d)
  | .excess d, _ => some (.excess d)
  | .stopped d, _ => some (.stopped d)
  | _, _ => none

/-- Reads a token, or stops at it. -/
def step (b : Builder) (token : Token) : Builder :=
  match b.advance? token with
  | some next => next
  | none => .stopped (b.halt .malformed)

end Builder

end Document

/-- What a text shows: its document, and whether something follows after it. -/
structure Reading where
  document : Document
  excess : Bool

/-- Reads a text to its end, or to the place where it breaks off. -/
def Reading.ofText (text : List Char) : Reading :=
  let last := (tokens text).foldl Document.Builder.step (.value [])
  ⟨last.halt .truncated, last matches .excess _⟩

end InCallProximity.Json
