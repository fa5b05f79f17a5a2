import InCallProximity.Proofs.Json.Keeping
import InCallProximity.Proofs.Json.Alike

/-!
# Tagged objects by their parts

What decodes to a tagged object is said without a decoder: beside the tag it has parts, each with a
name, the values that are acceptable for it, and whether it may be left out (`Component`). A value
denotes a tag and parts if it is an object with suitable members of these names, or an array of
suitable items in this order (`Denotes`).

A decoder of contents that takes its parts (`Record.Takes`) accepts an array as it accepts the
object with the names of the fields put to the items, so what is known of objects carries over
(`Content.items_decode_iff`).
-/

namespace InCallProximity.Json

/-- A part of a tagged object: its name, the values that it accepts, and whether it may be left
out. -/
structure Component where
  name : String
  accepts : Value → Prop
  mayLack : Prop

/-- What there is for a part suits it. -/
def Component.Suits (part : Component) : Option Value → Prop
  | some v => part.accepts v
  | none => part.mayLack

/-- An object with this tag and suitable members, whatever its other members are, or an array that
starts with this tag and goes on with suitable items, of which only the last ones may be left
out. -/
inductive Denotes (tag : String) (parts : List Component) : Value → Prop where
  | object {members : List (String × Value)}
      (tagged : (Value.object members).member? "type" = some (.text tag))
      (suits : ∀ part ∈ parts, part.Suits ((Value.object members).member? part.name)) :
      Denotes tag parts (.object members)
  | array {items : List Value} (most : items.length ≤ parts.length)
      (suits : ∀ (i : Nat) (part : Component), parts[i]? = some part → part.Suits items[i]?) :
      Denotes tag parts (.array (.text tag :: items))

/-! ## Names that do not repeat -/

theorem nodup_knownNames_iff {δ : Type} {known : List String} {named : List (String × δ)} :
    (knownNames known named).Nodup ↔ ∀ name ∈ known, (named.map Prod.fst).count name ≤ 1 := by
  have counts : ∀ name ∈ known,
      (knownNames known named).count name = (named.map Prod.fst).count name :=
    fun name isKnown => List.count_filter (p := (· ∈ known)) (decide_eq_true isKnown)
  rw [List.nodup_iff_count_le_one]
  constructor
  · exact fun once name isKnown => counts name isKnown ▸ once name
  · intro once name
    by_cases isKnown : name ∈ known
    · exact counts name isKnown ▸ once name isKnown
    · rw [List.count_eq_zero_of_not_mem fun among => isKnown (mem_knownNames.mp among).2]
      exact Nat.zero_le 1

/-- Members that have names of their own are found by them. -/
theorem found_zip {δ : Type} {names : List String} (distinct : names.Nodup) (items : List δ)
    {i : Nat} {name : String} (named : names[i]? = some name) :
    found (names.zip items) name = items[i]? := by
  induction names generalizing items i with
  | nil => cases named
  | cons first names ih =>
    rw [List.nodup_cons] at distinct
    cases items with
    | nil => rfl
    | cons item items =>
      cases i with
      | zero =>
        cases named
        exact found_cons_of_eq rfl item _
      | succ i =>
        have later : name ∈ names := List.mem_of_getElem? named
        have differ : first ≠ name := fun same => distinct.1 (same ▸ later)
        rw [List.zip_cons_cons, found_cons_of_ne differ]
        exact ih distinct.2 items named

theorem names_zip_sublist {δ : Type} (names : List String) (items : List δ) :
    ((names.zip items).map Prod.fst).Sublist names := by
  induction names generalizing items with
  | nil => exact .refl _
  | cons name names ih =>
    cases items with
    | nil => exact List.nil_sublist _
    | cons item items => exact (ih items).cons_cons name

/-! ## Arrays as objects -/

namespace Record

variable {δ σ : Type}

/-- Items are put into fields as members with the names of the fields are. -/
theorem putItems_eq_ok_iff {title : String} {count : Nat} {fields : List (Field δ σ)}
    (distinct : (names fields).Nodup) {items : List δ} {x y : σ} :
    putItems title count none fields items x = .ok ([], y) ↔
      items.length ≤ fields.length ∧
      (∀ field ∈ fields, field.required = true →
        found ((names fields).zip items) field.name ≠ none) ∧
      fill (found ((names fields).zip items)) fields x = .ok y := by
  induction fields generalizing items x with
  | nil => cases items <;> simp [putItems, fill]
  | cons field fields ih =>
    rw [names, List.map_cons, List.nodup_cons] at distinct
    cases items with
    | nil =>
      have ih := @ih distinct.2 [] x
      rw [List.zip_nil_right, fill_of_nothing found_nil] at ih ⊢
      cases needed : field.required <;> simp [putItems, close, needed, ih, bind, Except.bind]
    | cons d items =>
      have same : ∀ other ∈ fields,
          found ((field.name, d) :: (names fields).zip items) other.name =
            found ((names fields).zip items) other.name := by
        intro other among
        refine found_cons_of_ne (fun same => distinct.1 ?_) d _
        rw [same]
        exact List.mem_map_of_mem among
      have first : found ((field.name, d) :: (names fields).zip items) field.name = some d :=
        found_cons_of_eq rfl d _
      rw [putItems, names, List.map_cons, List.zip_cons_cons, ← names, fill_of_present first,
        List.forall_mem_cons, List.length_cons, List.length_cons, Nat.succ_le_succ_iff]
      simp only [bind_eq_ok_iff, ih distinct.2, funext (fill_congr same)]
      have required : (∀ other ∈ fields, other.required = true →
          found ((field.name, d) :: (names fields).zip items) other.name ≠ none) ↔
          ∀ other ∈ fields, other.required = true →
            found ((names fields).zip items) other.name ≠ none :=
        forall₂_congr fun other among => by rw [same other among]
      rw [required, first]
      constructor
      · rintro ⟨x₁, puts, few, needed, filled⟩
        exact ⟨few, ⟨fun _ => Option.some_ne_none d, needed⟩, x₁, puts, filled⟩
      · rintro ⟨few, ⟨-, needed⟩, x₁, puts, filled⟩
        exact ⟨x₁, puts, few, needed, filled⟩

end Record

/-- An array is decoded like the object with the names of the fields put to its items. -/
theorem Content.items_decode_iff {σ : Type} {r : Record Kept σ}
    (independent : Field.Independent r.fields) {kept : List Kept} {y : σ} :
    (Content.items kept).decode r = .ok y ↔ kept.length ≤ r.fields.length ∧
      (Content.members ((Record.names r.fields).zip kept)).decode r = .ok y := by
  have unrepeated : (knownNames (Record.names r.fields)
      ((Record.names r.fields).zip kept)).Nodup :=
    (independent.names.sublist (names_zip_sublist ..)).filter _
  rw [decode_members_iff independent, and_iff_right unrepeated,
    ← Record.putItems_eq_ok_iff independent.names]
  exact Record.ofItems_eq_ok_iff.trans (and_iff_right rfl)

/-! ## Contents -/

/-- The parts of a content suit: the items in their order, or the members by their names, of which
none may repeat. -/
def Content.Suits (parts : List Component) : Content → Prop
  | .items kept => kept.length ≤ parts.length ∧ ∀ (i : Nat) (part : Component),
      parts[i]? = some part → part.Suits (kept[i]?.map Kept.value)
  | .members kept => (knownNames (parts.map Component.name) kept).Nodup ∧
      ∀ part ∈ parts, part.Suits ((found kept part.name).map Kept.value)

theorem Content.suits_items_iff {parts : List Component}
    (distinct : (parts.map Component.name).Nodup) {kept : List Kept} :
    (Content.items kept).Suits parts ↔ kept.length ≤ parts.length ∧
      (Content.members ((parts.map Component.name).zip kept)).Suits parts := by
  have unrepeated : (knownNames (parts.map Component.name)
      ((parts.map Component.name).zip kept)).Nodup :=
    (distinct.sublist (names_zip_sublist ..)).filter _
  have named : ∀ {i : Nat} {part : Component}, parts[i]? = some part →
      found ((parts.map Component.name).zip kept) part.name = kept[i]? := by
    intro i part there
    refine found_zip distinct kept ?_
    rw [List.getElem?_map, there, Option.map_some]
  refine and_congr_right fun _ => Iff.trans ?_ (and_iff_right unrepeated).symm
  constructor
  · intro suits part among
    obtain ⟨i, there⟩ := List.mem_iff_getElem?.mp among
    rw [named there]
    exact suits i part there
  · intro suits i part there
    rw [← named there]
    exact suits part (List.mem_of_getElem? there)

/-- A record is decoded to `y` from what suits the parts of `y`. -/
structure Record.Takes {σ : Type} (r : Record Kept σ) (parts : σ → List Component) : Prop where
  independent : Field.Independent r.fields
  names : ∀ y, (parts y).map Component.name = Record.names r.fields
  fills : ∀ (there : String → Option Kept) (y : σ),
    (∀ field ∈ r.fields, field.required = true → there field.name ≠ none) ∧
        Record.fill there r.fields r.start = .ok y ↔
      ∀ part ∈ parts y, part.Suits ((there part.name).map Kept.value)

theorem Record.Takes.decode_iff {σ : Type} {r : Record Kept σ} {parts : σ → List Component}
    (takes : r.Takes parts) {content : Content} {y : σ} :
    content.decode r = .ok y ↔ content.Suits (parts y) := by
  have members : ∀ {kept : List (String × Kept)},
      (Content.members kept).decode r = .ok y ↔ (Content.members kept).Suits (parts y) := by
    intro kept
    rw [Content.decode_members_iff takes.independent, takes.fills, ← takes.names y]
    rfl
  cases content with
  | members kept => exact members
  | items kept =>
    have length : (parts y).length = r.fields.length := by
      rw [← List.length_map Component.name, takes.names, Record.names, List.length_map]
    rw [Content.items_decode_iff takes.independent, members, ← takes.names y, ← length,
      Content.suits_items_iff (takes.names y ▸ takes.independent.names)]

/-! ## The records of contents by their parts -/

/-- A part with the name and the values of a field, which may be left out for some values. -/
structure Component.Of {α : Type} (part : α → Component) (name : String)
    (decode : Kept → Except Problem α) (spare : α → Prop) : Prop where
  name_eq : ∀ a, (part a).name = name
  accepts_iff : ∀ a v, (part a).accepts v ↔ decode ⟨v⟩ = .ok a
  mayLack_iff : ∀ a, (part a).mayLack ↔ spare a

theorem Component.Of.congr {α : Type} {part : α → Component} {name : String}
    {decode : Kept → Except Problem α} {spare spareToo : α → Prop}
    (field : Of part name decode spare) (same : ∀ a, spare a ↔ spareToo a) :
    Of part name decode spareToo :=
  ⟨field.name_eq, field.accepts_iff, fun a => (field.mayLack_iff a).trans (same a)⟩

namespace Record

variable {α β : Type} {part : α → Component} {partToo : β → Component} {first second : String}

theorem takes_empty (title : String) : (empty title).Takes fun _ => [] where
  independent := independent_empty title
  names _ := rfl
  fills _ _ := iff_of_true ⟨nofun, rfl⟩ nofun

theorem takes_one (title : String) (start : α) {decode : Kept → Except Problem α}
    (field : Component.Of part first decode fun _ => False) :
    (one title start first decode).Takes fun a => [part a] where
  independent := independent_one ..
  names a := congrArg (fun name => [name]) (field.name_eq a)
  fills there a := by
    cases found : there first <;>
      simp [one, Field.needed, fill, Component.Suits, field.name_eq, field.accepts_iff,
        field.mayLack_iff, found, map_eq_ok_iff, bind_eq_ok_iff]

/-- Two fields, both of which have to be present or may be left out. -/
theorem fills_pair {required : Bool} {decode : Kept → Except Problem α}
    {decodeToo : Kept → Except Problem β} {start : α × β}
    (field : Component.Of part first decode fun a => required = false ∧ start.1 = a)
    (fieldToo : Component.Of partToo second decodeToo fun b => required = false ∧ start.2 = b)
    (there : String → Option Kept) (y : α × β) :
    let fields : List (Field Kept (α × β)) :=
      [⟨first, required, fun d x => (decode d).map fun a => (a, x.2)⟩,
        ⟨second, required, fun d x => (decodeToo d).map fun b => (x.1, b)⟩]
    (∀ field ∈ fields, field.required = true → there field.name ≠ none) ∧
        fill there fields start = .ok y ↔
      ∀ p ∈ [part y.1, partToo y.2], p.Suits ((there p.name).map Kept.value) := by
  obtain ⟨a, b⟩ := y
  obtain ⟨a₀, b₀⟩ := start
  cases required <;> cases found : there first <;> cases foundToo : there second <;>
    simp [fill, Component.Suits, field.name_eq, field.accepts_iff, field.mayLack_iff,
      fieldToo.name_eq, fieldToo.accepts_iff, fieldToo.mayLack_iff, found, foundToo,
      map_eq_ok_iff, bind_eq_ok_iff, and_comm]

theorem takes_two (title : String) (start : α × β) (apart : first ≠ second)
    {decode : Kept → Except Problem α} {decodeToo : Kept → Except Problem β}
    (field : Component.Of part first decode fun _ => False)
    (fieldToo : Component.Of partToo second decodeToo fun _ => False) :
    (two title start first decode second decodeToo).Takes fun y => [part y.1, partToo y.2] where
  independent := independent_two title start apart decode decodeToo
  names y := by simp [field.name_eq, fieldToo.name_eq, two, Record.names, Field.needed]
  fills := @fills_pair _ _ part partToo first second true _ _ start
    (field.congr fun _ => by simp) (fieldToo.congr fun _ => by simp)

theorem takes_flags {part partToo : Bool → Component} (title : String) (apart : first ≠ second)
    (field : Component.Of part first decodeBool (· = false))
    (fieldToo : Component.Of partToo second decodeBool (· = false)) :
    (flags title first second).Takes fun y => [part y.1, partToo y.2] where
  independent := independent_flags title apart
  names y := by simp [field.name_eq, fieldToo.name_eq, flags, Record.names, Field.optional]
  fills := @fills_pair _ _ part partToo first second false _ _ (false, false)
    (field.congr fun _ => by simp [eq_comm]) (fieldToo.congr fun _ => by simp [eq_comm])

end Record

/-! ## Values that denote -/

/-- No object at the top of a value repeats one of these names. -/
def Value.Unrepeated (known : List String) : Value → Prop
  | .object members => (knownNames known members).Nodup
  | _ => True

theorem Value.unrepeated_collapse (known : List String) (v : Value) :
    v.collapse.Unrepeated known := by
  cases v with
  | object members => exact (table_distinct _).filter _
  | _ => trivial

/-- As long as a name does not repeat, the last member of the name is the first. -/
theorem Value.member?_eq_found {members : List (String × Value)} {known : List String}
    (unrepeated : (knownNames known members).Nodup) {name : String} (isKnown : name ∈ known) :
    (Value.object members).member? name = found members name :=
  (found_perm (List.reverse_perm members).symm unrepeated isKnown).symm

theorem eq_name_of_ofName {α : Type} [Named α] {s : String} {a : α} (named : ofName s = .ok a) :
    s = Named.name a := by
  unfold ofName Named.ofName? at named
  split at named
  · next found =>
    cases named
    have named := List.find?_some found
    exact (of_decide_eq_true named).symm
  · cases named

namespace Tagged

variable {τ : Type} [Named τ] {t : τ}

theorem decodeTag_value_iff (named : ofName (Named.name t) = .ok t) {v : Value} :
    decodeTag v = .ok t ↔ v = .text (Named.name t) := by
  rw [decodeTag_eq_ok_iff]
  simp only [Value.view_eq_text_iff]
  constructor
  · rintro ⟨s, rfl, same⟩
    rw [eq_name_of_ofName same]
  · exact fun same => ⟨_, same, named⟩

theorem knownNames_type {δ : Type} (named : List (String × δ)) :
    knownNames ["type"] named = (tags named).map Prod.fst := by
  unfold knownNames tags
  rw [List.filter_map]
  refine congrArg (List.map Prod.fst) (List.filter_congr fun member _ => ?_)
  simp

theorem isTag_iff {δ : Type} [Source δ] {named : List (String × δ)} :
    IsTag none (tags named) (some t) ↔ (knownNames ["type"] named).Nodup ∧
      ∃ d, found named "type" = some d ∧ decodeTag d = .ok t := by
  have first : found named "type" = (tags named).head?.map Prod.snd :=
    congrArg (Option.map _) (List.head?_filter ..).symm
  have tagged : ∀ member ∈ tags named, member.1 = "type" :=
    fun member among => of_decide_eq_true (List.mem_filter.mp among).2
  rw [knownNames_type, first]
  generalize tags named = them at tagged
  constructor
  · intro isTag
    cases isTag with
    | decoded decodes => exact ⟨List.nodup_singleton _, _, rfl, decodes⟩
  · rintro ⟨once, d, head, decodes⟩
    rcases them with _ | ⟨member, _ | ⟨other, rest⟩⟩
    · cases head
    · cases head
      exact .decoded decodes
    · rw [List.forall_mem_cons, List.forall_mem_cons] at tagged
      rw [List.map_cons, List.map_cons, tagged.1, tagged.2.1, List.nodup_cons] at once
      exact absurd List.mem_cons_self once.1

theorem knownNames_aside {known : List String} (untagged : "type" ∉ known)
    (members : List (String × Value)) :
    knownNames known (aside (others members)) = knownNames known members := by
  unfold knownNames aside others
  rw [List.map_map, List.filter_map, List.filter_map, List.filter_filter]
  refine congrArg (List.map Prod.fst) (List.filter_congr fun member _ => ?_)
  by_cases isKnown : member.1 ∈ known
  · have differ : member.1 ≠ "type" := fun same => untagged (same ▸ isKnown)
    simp [isKnown, differ]
  · simp [isKnown]

theorem found_aside {name : String} (untagged : name ≠ "type") (members : List (String × Value)) :
    (found (aside (others members)) name).map Kept.value = found members name := by
  induction members with
  | nil => rfl
  | cons member rest ih =>
    obtain ⟨other, v⟩ := member
    by_cases isTag : other = "type"
    · rw [others_cons_of_eq isTag, ih, found_cons_of_ne (isTag ▸ untagged.symm)]
    · rw [others_cons_of_ne isTag]
      by_cases same : other = name
      · rw [found_cons_of_eq same, aside, List.map_cons, found_cons_of_eq same]
        rfl
      · rw [found_cons_of_ne same, aside, List.map_cons, found_cons_of_ne same]
        exact ih

theorem split_object_suits_iff {title : String} (named : ofName (Named.name t) = .ok t)
    {parts : List Component} (untagged : "type" ∉ parts.map Component.name)
    {members : List (String × Value)} :
    (∃ content, split title (Value.object members) = .ok (t, content) ∧ content.Suits parts) ↔
      (knownNames ("type" :: parts.map Component.name) members).Nodup ∧
        Denotes (Named.name t) parts (.object members) := by
  have content : ∀ content, split title (Value.object members) = .ok (t, content) ↔
      ((knownNames ["type"] members).Nodup ∧ found members "type" = some (.text (Named.name t))) ∧
        content = .members (aside (others members)) := by
    intro content
    rw [split_value_object_iff, isTag_iff]
    simp only [decodeTag_value_iff named, exists_eq_right]
  have suits : (Content.members (aside (others members))).Suits parts ↔
      (knownNames (parts.map Component.name) members).Nodup ∧
        ∀ part ∈ parts, part.Suits (found members part.name) := by
    change (knownNames (parts.map Component.name) (aside (others members))).Nodup ∧
      (∀ part ∈ parts, part.Suits ((found (aside (others members)) part.name).map Kept.value)) ↔ _
    rw [knownNames_aside untagged]
    refine and_congr_right fun _ => forall₂_congr fun part among => ?_
    rw [found_aside fun same => untagged (same ▸ List.mem_map_of_mem among)]
  have unrepeated : (knownNames ("type" :: parts.map Component.name) members).Nodup ↔
      (knownNames ["type"] members).Nodup ∧
        (knownNames (parts.map Component.name) members).Nodup := by
    rw [nodup_knownNames_iff, nodup_knownNames_iff, nodup_knownNames_iff, List.forall_mem_cons,
      List.forall_mem_singleton]
  simp only [content, and_assoc, exists_and_left, exists_eq_left, suits]
  constructor
  · rintro ⟨once, tagged, onceToo, suits⟩
    have known := unrepeated.mpr ⟨once, onceToo⟩
    refine ⟨known, .object ?_ fun part among => ?_⟩
    · rwa [Value.member?_eq_found known List.mem_cons_self]
    · rw [Value.member?_eq_found known (List.mem_cons_of_mem _ (List.mem_map_of_mem among))]
      exact suits part among
  · rintro ⟨known, denotes⟩
    cases denotes with
    | object tagged suits =>
      rw [Value.member?_eq_found known List.mem_cons_self] at tagged
      refine ⟨(unrepeated.mp known).1, tagged, (unrepeated.mp known).2, fun part among => ?_⟩
      rw [← Value.member?_eq_found known (List.mem_cons_of_mem _ (List.mem_map_of_mem among))]
      exact suits part among

theorem split_array_suits_iff {title : String} (named : ofName (Named.name t) = .ok t)
    {parts : List Component} {items : List Value} :
    (∃ content, split title (Value.array items) = .ok (t, content) ∧ content.Suits parts) ↔
      Denotes (Named.name t) parts (.array items) := by
  have same : ∀ (rest : List Value) (i : Nat),
      (rest.map Kept.mk)[i]?.map Kept.value = rest[i]? := by
    intro rest i
    rw [List.getElem?_map, Option.map_map]
    exact congrFun Option.map_id _
  simp only [split_value_array_iff, decodeTag_value_iff named]
  constructor
  · rintro ⟨_, ⟨_, rest, rfl, rfl, rfl⟩, most, suits⟩
    rw [List.length_map] at most
    exact .array most fun i part there => same rest i ▸ suits i part there
  · intro denotes
    cases denotes with
    | array most suits =>
      refine ⟨_, ⟨_, _, rfl, rfl, rfl⟩, ?_, fun i part there => ?_⟩
      · rwa [List.length_map]
      · rw [same]
        exact suits i part there

/-- A value splits into a tag and suitable parts exactly if it denotes them, and neither the tag
nor a part stands there twice. -/
theorem split_suits_iff {title : String} (named : ofName (Named.name t) = .ok t)
    {parts : List Component} (untagged : "type" ∉ parts.map Component.name) {v : Value} :
    (∃ content, split title v = .ok (t, content) ∧ content.Suits parts) ↔
      v.Unrepeated ("type" :: parts.map Component.name) ∧ Denotes (Named.name t) parts v := by
  cases v with
  | object members => exact split_object_suits_iff named untagged
  | array items => exact (split_array_suits_iff named).trans (and_iff_right trivial).symm
  | _ =>
    refine iff_of_false ?_ ?_
    · rintro ⟨content, splits, -⟩
      rcases view_of_split splits with ⟨_, _, viewed⟩ | ⟨_, _, viewed⟩ <;> cases viewed
    · rintro ⟨-, denotes⟩
      cases denotes

end Tagged

end InCallProximity.Json
