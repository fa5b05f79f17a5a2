import InCallProximity.Json.Source

/-!
# Records

A record is decoded from an object with members of known names, or from an array of its fields in
order. Its description lists the fields; decoding starts from a record and lets each field that is
present replace its part. Optional fields may be left out and then keep the part they had at the
start.

Members are taken in the order of the source: a repeated known name is refused before its value is
looked at, members of unknown names are passed over, and only at the end the first required field
that was not seen is reported.
-/

namespace InCallProximity.Json

/-- A field of a record of type `σ`. -/
structure Field (δ σ : Type) where
  name : String
  required : Bool
  /-- decodes the value of the field and puts it into the record -/
  put : δ → σ → Except Problem σ

/-- A field that has to be present. -/
def Field.needed {δ σ α : Type} (name : String) (decode : δ → Except Problem α)
    (set : α → σ → σ) : Field δ σ :=
  ⟨name, true, fun d x => (decode d).map (set · x)⟩

/-- A field that may be left out. -/
def Field.optional {δ σ α : Type} (name : String) (decode : δ → Except Problem α)
    (set : α → σ → σ) : Field δ σ :=
  ⟨name, false, fun d x => (decode d).map (set · x)⟩

/-- The description of a record: what messages call it, its fields in order, and the record that
decoding starts from. -/
structure Record (δ σ : Type) where
  title : String
  fields : List (Field δ σ)
  start : σ

namespace Record

variable {δ σ : Type} [Source δ]

/-- Puts the members of known names into a record; the names that were seen are returned with
it. -/
def putMembers (fields : List (Field δ σ)) :
    List (Except Problem String × δ) → List String → σ → Except Problem (List String × σ)
  | [], seen, x => .ok (seen, x)
  | (key, d) :: rest, seen, x => do
    let name ← key
    match fields.find? (·.name = name) with
    | none => do
      Source.ignore d
      putMembers fields rest seen x
    | some field =>
      if name ∈ seen then .error (.data (.repeatedMember name))
      else do
        let x ← field.put d x
        putMembers fields rest (name :: seen) x

/-- Reports the first required field that was not seen. -/
def requireSeen (fields : List (Field δ σ)) (seen : List String) : Except Problem Unit :=
  match fields.find? fun field => field.required && !(field.name ∈ seen) with
  | none => .ok ()
  | some field => .error (.data (.missingMember field.name))

/-- Decodes a record from members. What is wrong with one of them is reported before the end of the
object is judged, and only then a field that is missing. -/
def ofMembers (r : Record δ σ) (members : List (Except Problem String × δ)) (fault : Option Fault) :
    Except Problem σ := do
  let (seen, x) ← putMembers r.fields members [] r.start
  close fault
  requireSeen r.fields seen
  return x

/-- Puts items into a record, one for each field, as long as there are items. -/
def putItems (title : String) (count : Nat) (fault : Option Fault) :
    List (Field δ σ) → List δ → σ → Except Problem (List δ × σ)
  | [], rest, x => .ok (rest, x)
  | field :: fields, [], x => do
    close fault
    if field.required then
      .error (.data
        (.wrongLength (count - (fields.length + 1)) (title ++ " with " ++ elements count)))
    else putItems title count fault fields [] x
  | field :: fields, d :: rest, x => do
    let x ← field.put d x
    putItems title count fault fields rest x

/-- Decodes a record from items in the order of its fields. Items beyond the fields are refused. -/
def ofItems (r : Record δ σ) (items : List δ) (fault : Option Fault) : Except Problem σ := do
  let (rest, x) ← putItems r.title r.fields.length fault r.fields items r.start
  if rest.isEmpty then do
    close fault
    return x
  else .error (Source.excess δ items.length r.fields.length)

/-- Decodes a record from an object or an array. -/
def decode (r : Record δ σ) (d : δ) : Except Problem σ :=
  match Source.view d with
  | .object members fault => r.ofMembers members fault
  | .array items fault => r.ofItems items fault
  | other => other.refuse r.title

/-- The description of a record none of whose fields has to be present, decoded onto `x`. -/
def onto (r : Record δ σ) (x : σ) : Record δ σ :=
  { r with fields := r.fields.map ({ · with required := false }), start := x }

end Record

end InCallProximity.Json
