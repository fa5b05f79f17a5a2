import InCallProximity.Json.Tagged

/-!
# The contents of tagged objects

The few shapes that the contents of events and commands have, as records of parts that were set
aside.
-/

namespace InCallProximity.Json.Record

/-- A record without fields. -/
def empty (title : String) : Record Kept Unit := ⟨title, [], ()⟩

/-- A record of one field that has to be present. -/
def one {α : Type} (title : String) (start : α) (name : String)
    (decode : Kept → Except Problem α) : Record Kept α :=
  ⟨title, [.needed name decode fun a _ => a], start⟩

/-- A record of two fields that have to be present. -/
def two {α β : Type} (title : String) (start : α × β)
    (first : String) (decodeFirst : Kept → Except Problem α)
    (second : String) (decodeSecond : Kept → Except Problem β) : Record Kept (α × β) :=
  ⟨title,
    [.needed first decodeFirst fun a x => (a, x.2),
      .needed second decodeSecond fun b x => (x.1, b)],
    start⟩

/-- A record of two flags that are false when left out. -/
def flags (title first second : String) : Record Kept (Bool × Bool) :=
  ⟨title,
    [.optional first decodeBool fun a x => (a, x.2),
      .optional second decodeBool fun b x => (x.1, b)],
    (false, false)⟩

end InCallProximity.Json.Record
