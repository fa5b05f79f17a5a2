import InCallProximity.Json.Record

/-!
# Tagged objects

A tagged object names its kind in the member `type`, which may stand anywhere; the other members
are the fields of that kind. An array names its kind in the first item. The tag is judged where it
stands. The other parts are set aside until the whole object has been read, and decoded then.
-/

namespace InCallProximity.Json

/-- The parts of a tagged object other than its tag. -/
inductive Content where
  | items (items : List Kept)
  | members (members : List (String × Kept))

/-- Decodes the parts that were set aside as a record. -/
def Content.decode {σ : Type} (r : Record Kept σ) : Content → Except Problem σ
  | .items kept => r.ofItems kept none
  | .members kept => r.ofMembers (kept.map fun (name, k) => (.ok name, k)) none

namespace Tagged

variable {δ τ : Type} [Source δ] [Named τ]

/-- Decodes the tag, which has to be a text that names a kind. -/
def decodeTag (d : δ) : Except Problem τ :=
  match Source.view d with
  | .text s => ofName s
  | other => other.refuse "variant identifier"

/-- Sets items aside. -/
def keepItems : List δ → Except Problem (List Kept)
  | [] => .ok []
  | d :: rest => do
    let value ← Source.keep d
    let kept ← keepItems rest
    return ⟨value⟩ :: kept

/-- Finds the tag among the members and sets the others aside. -/
def keepMembers :
    List (Except Problem String × δ) → Option τ → Except Problem (Option τ × List (String × Kept))
  | [], tag => .ok (tag, [])
  | (key, d) :: rest, tag => do
    let name ← key
    if name = "type" then
      if tag.isSome then .error (.data (.repeatedMember name))
      else do
        let found ← decodeTag d
        keepMembers rest (some found)
    else do
      let value ← Source.keep d
      let (tag, kept) ← keepMembers rest tag
      return (tag, (name, ⟨value⟩) :: kept)

/-- The tag that was found, or the refusal of an object without one. -/
def requireTag : Option τ → Except Problem τ
  | some tag => .ok tag
  | none => .error (.data (.missingMember "type"))

/-- Splits a tagged object or array into its tag and its content. -/
def split (title : String) (d : δ) : Except Problem (τ × Content) :=
  match Source.view d with
  | .object members fault => do
    let (tag, kept) ← keepMembers members none
    close fault
    let tag ← requireTag tag
    return (tag, .members kept)
  | .array [] fault => do
    close fault
    .error (.data (.missingMember "type"))
  | .array (d :: rest) fault => do
    let tag ← decodeTag d
    let kept ← keepItems rest
    close fault
    return (tag, .items kept)
  | other => other.refuse ("internally tagged enum " ++ title)

end Tagged

end InCallProximity.Json
