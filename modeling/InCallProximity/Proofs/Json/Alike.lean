import InCallProximity.Wire.Content
import InCallProximity.Proofs.Json.Tables
import InCallProximity.Proofs.Json.Tags

/-!
# Contents that are alike

Making tables of the objects in a tagged value rearranges the members of its content, and the
members of the objects in them (`Content.Alike`). As long as no object repeats a name, no record of
flags, numbers and names can tell: `Content.Alike.decode_iff`.
-/

namespace InCallProximity.Json

/-! ## Contents that differ only in their arrangement -/

/-- The second is the table of the first, in which no name repeats. -/
def Kept.Tabled (k l : Kept) : Prop := k.value.Distinct ∧ l.value = k.value.collapse

/-- The second is the first with tables for objects, and rearranged if it has names. -/
inductive Content.Alike : Content → Content → Prop where
  | items {kept tabled : List Kept} (each : List.Forall₂ Kept.Tabled kept tabled) :
      Alike (.items kept) (.items tabled)
  | members {kept tabled rearranged : List (String × Kept)}
      (distinct : (kept.map Prod.fst).Nodup)
      (each : List.Forall₂ (fun m n => n.1 = m.1 ∧ m.2.Tabled n.2) kept tabled)
      (same : rearranged.Perm tabled) : Alike (.members kept) (.members rearranged)

namespace Tagged

variable {τ : Type} [Named τ]

theorem IsTag.perm {δ : Type} [Source δ] {tag tagToo : Option τ} {named other : List (String × δ)}
    (isTag : IsTag tag named tagToo) (same : named.Perm other) : IsTag tag other tagToo := by
  cases isTag with
  | kept =>
    obtain rfl := List.nil_perm.mp same
    exact .kept tag
  | decoded decodes =>
    obtain rfl := List.singleton_perm.mp same
    exact .decoded decodes

theorem decodeTag_collapse_iff {v : Value} {t : τ} :
    decodeTag v.collapse = .ok t ↔ decodeTag v = .ok t := by
  simp only [decodeTag_eq_ok_iff, Value.view_eq_text_iff]
  cases v <;> simp [Value.collapse]

theorem isTag_collapsed_iff {named : List (String × Value)} {t : τ} :
    IsTag none (Value.collapsed named) (some t) ↔ IsTag none named (some t) := by
  constructor
  · intro isTag
    generalize tabled : Value.collapsed named = more at isTag
    cases isTag with
    | decoded decodes =>
      obtain ⟨⟨name, v⟩, rfl, same⟩ := List.map_eq_singleton_iff.mp tabled
      cases same
      exact .decoded (decodeTag_collapse_iff.mp decodes)
  · intro isTag
    cases isTag with
    | decoded decodes => exact .decoded (decodeTag_collapse_iff.mpr decodes)

/-- The members of a value, set aside. -/
def aside (named : List (String × Value)) : List (String × Kept) :=
  named.map fun member => (member.1, ⟨member.2⟩)

theorem setAside_value_iff {named : List (String × Value)} {kept : List (String × Kept)} :
    SetAside named kept ↔ kept = aside named := by
  constructor
  · intro setAside
    induction setAside with
    | nil => rfl
    | @cons member k _ _ keeps _ ih =>
      have head : k = (member.1, ⟨member.2⟩) := by
        obtain ⟨name, value⟩ := k
        obtain ⟨rfl, same⟩ := keeps
        rw [Except.ok.inj same]
      rw [head, ih]
      rfl
  · rintro rfl
    unfold SetAside aside
    rw [List.forall₂_map_right_iff]
    exact List.forall₂_same.mpr fun _ _ => ⟨rfl, rfl⟩

theorem split_value_object_iff {title : String} {members : List (String × Value)} {t : τ}
    {content : Content} :
    split title (Value.object members) = .ok (t, content) ↔
      IsTag none (tags members) (some t) ∧ content = .members (aside (others members)) := by
  rw [split_object_iff (d := Value.object members) rfl]
  constructor
  · rintro ⟨-, named, kept, same, isTag, setAside, rfl⟩
    obtain rfl : members = named := read_injective same
    exact ⟨isTag, congrArg Content.members (setAside_value_iff.mp setAside)⟩
  · rintro ⟨isTag, rfl⟩
    exact ⟨rfl, members, _, rfl, isTag, setAside_value_iff.mpr rfl, rfl⟩

theorem tags_collapsed (members : List (String × Value)) :
    tags (Value.collapsed members) = Value.collapsed (tags members) :=
  List.filter_map

theorem others_collapsed (members : List (String × Value)) :
    others (Value.collapsed members) = Value.collapsed (others members) :=
  List.filter_map

/-- Two values split into the same tag, if any, and into contents that are alike. -/
def SplitAlike (τ : Type) [Named τ] (title : String) (v w : Value) : Prop :=
  ∃ (isTag : τ → Prop) (content contentToo : Content), content.Alike contentToo ∧
    (∀ t c, split title v = .ok (t, c) ↔ isTag t ∧ c = content) ∧
    ∀ t c, split title w = .ok (t, c) ↔ isTag t ∧ c = contentToo

theorem splitAlike_object (title : String) {members : List (String × Value)}
    (distinct : (Value.object members).Distinct) :
    SplitAlike τ title (.object members) (Value.object members).collapse := by
  obtain ⟨rearranged, tabled, same⟩ := Value.collapse_object distinct.1
  have sameTags : (tags rearranged).Perm (Value.collapsed (tags members)) := by
    rw [← tags_collapsed]
    exact same.filter _
  have sameOthers : (others rearranged).Perm (Value.collapsed (others members)) := by
    rw [← others_collapsed]
    exact same.filter _
  refine ⟨fun t => IsTag none (tags members) (some t), .members (aside (others members)),
    .members (aside (others rearranged)),
    @Content.Alike.members _ (aside (Value.collapsed (others members))) _ ?_ ?_ (sameOthers.map _),
    fun _ _ => split_value_object_iff, fun _ _ => ?_⟩
  · have names : (aside (others members)).map Prod.fst = (others members).map Prod.fst :=
      List.map_map
    rw [names]
    exact distinct.1.sublist (List.filter_sublist.map _)
  · unfold aside
    rw [List.forall₂_map_left_iff, List.map_map, List.forall₂_map_right_iff]
    refine List.forall₂_same.mpr fun member among => ⟨rfl, ?_, rfl⟩
    exact Value.distinctMembers_iff.mp distinct.2 member (List.mem_of_mem_filter among)
  · rw [tabled, split_value_object_iff]
    refine and_congr_left fun _ => ⟨fun isTag => ?_, fun isTag => ?_⟩
    · exact isTag_collapsed_iff.mp (isTag.perm sameTags)
    · exact (isTag_collapsed_iff.mpr isTag).perm sameTags.symm

theorem split_value_array_iff {title : String} {items : List Value} {t : τ} {content : Content} :
    split title (Value.array items) = .ok (t, content) ↔
      ∃ first rest, items = first :: rest ∧ decodeTag first = .ok t ∧
        content = .items (rest.map Kept.mk) := by
  have aside_iff : ∀ {rest : List Value} {kept : List Kept},
      List.Forall₂ (fun v k => Source.keep v = .ok k.value) rest kept ↔
        kept = rest.map Kept.mk := by
    intro rest kept
    constructor
    · intro setAside
      induction setAside with
      | nil => rfl
      | @cons v k _ _ keeps _ ih => rw [ih, List.map_cons, Except.ok.inj keeps]
    · rintro rfl
      rw [List.forall₂_map_right_iff]
      exact List.forall₂_same.mpr fun _ _ => rfl
  have view : Source.view (Value.array items) = .array items none :=
    congrArg (View.array · none) (List.map_id items)
  rw [split_array_iff view]
  constructor
  · rintro ⟨-, first, rest, kept, same, decodes, setAside, rfl⟩
    exact ⟨first, rest, same, decodes, congrArg Content.items (aside_iff.mp setAside)⟩
  · rintro ⟨first, rest, same, decodes, rfl⟩
    exact ⟨rfl, first, rest, _, same, decodes, aside_iff.mpr rfl, rfl⟩

theorem splitAlike_array (title : String) {items : List Value}
    (distinct : (Value.array items).Distinct) :
    SplitAlike τ title (.array items) (Value.array items).collapse := by
  rw [Value.collapse_array]
  cases items with
  | nil =>
    refine ⟨fun _ => False, .items [], .items [], .items .nil, fun t c => ?_, fun t c => ?_⟩ <;>
      simp [split_value_array_iff]
  | cons first rest =>
    have distinctRest : ∀ v ∈ rest, v.Distinct :=
      fun v among => Value.distinctItems_iff.mp distinct v (List.mem_cons_of_mem _ among)
    refine ⟨fun t => decodeTag first = .ok t, .items (rest.map Kept.mk),
      .items ((rest.map Value.collapse).map Kept.mk), .items ?_, fun t c => ?_, fun t c => ?_⟩
    · rw [List.forall₂_map_left_iff, List.map_map, List.forall₂_map_right_iff]
      exact List.forall₂_same.mpr fun v among => ⟨distinctRest v among, rfl⟩
    · simp [split_value_array_iff]
    · simp [split_value_array_iff, decodeTag_collapse_iff]

/-- A value in which no name repeats splits like its table. -/
theorem splitAlike_collapse (title : String) {v : Value} (distinct : v.Distinct) :
    SplitAlike τ title v v.collapse := by
  cases v with
  | object members => exact splitAlike_object title distinct
  | array items => exact splitAlike_array title distinct
  | _ =>
    refine ⟨fun _ => False, .items [], .items [], .items .nil, fun t c => ?_, fun t c => ?_⟩ <;>
      (refine ⟨fun splits => ?_, fun never => never.1.elim⟩
       rcases view_of_split splits with ⟨_, _, viewed⟩ | ⟨_, _, viewed⟩ <;> cases viewed)

end Tagged

/-! ## Decoders that cannot tell tables -/

/-- A decoder reads the same of a table as of what it was made of. -/
def ReadsTables {α : Type} (decode : Kept → Except Problem α) : Prop :=
  ∀ {k l : Kept}, k.Tabled l → ∀ a, decode k = .ok a ↔ decode l = .ok a

/-- A record whose fields can be put in any order and read the same of tables. -/
structure Record.Tame {σ : Type} (r : Record Kept σ) : Prop where
  independent : Field.Independent r.fields
  reads : ∀ field ∈ r.fields, ∀ {k l : Kept}, k.Tabled l → ∀ x y,
    field.put k x = .ok y ↔ field.put l x = .ok y

namespace Record

variable {σ : Type}

theorem putItems_alike {title : String} {count : Nat} {fields : List (Field Kept σ)}
    (reads : ∀ field ∈ fields, ∀ {k l : Kept}, k.Tabled l → ∀ x y,
      field.put k x = .ok y ↔ field.put l x = .ok y)
    {kept tabled : List Kept} (each : List.Forall₂ Kept.Tabled kept tabled) {x y : σ} :
    putItems title count none fields kept x = .ok ([], y) ↔
      putItems title count none fields tabled x = .ok ([], y) := by
  induction fields generalizing kept tabled x with
  | nil =>
    cases each with
    | nil => exact Iff.rfl
    | cons => exact ⟨nofun, nofun⟩
  | cons field fields ih =>
    rw [List.forall_mem_cons] at reads
    cases each with
    | nil => exact Iff.rfl
    | cons head rest => simp only [putItems, bind_eq_ok_iff, reads.1 head, ih reads.2 rest]

theorem ofItems_eq_ok_iff {δ : Type} [Source δ] {r : Record δ σ} {items : List δ}
    {fault : Option Fault} {y : σ} :
    r.ofItems items fault = .ok y ↔ fault = none ∧
      putItems r.title r.fields.length none r.fields items r.start = .ok ([], y) := by
  unfold ofItems
  rw [bind_eq_ok_iff]
  constructor
  · rintro ⟨⟨rest, x⟩, put, outcome⟩
    cases rest with
    | nil =>
      obtain ⟨_, closed, same⟩ := bind_eq_ok_iff.mp outcome
      obtain rfl := close_eq_ok_iff.mp closed
      cases same
      exact ⟨rfl, put⟩
    | cons => cases outcome
  · rintro ⟨rfl, put⟩
    exact ⟨_, put, rfl⟩

theorem fill_alike {there thereToo : String → Option Kept} {fields : List (Field Kept σ)}
    (reads : ∀ field ∈ fields, ∀ {k l : Kept}, k.Tabled l → ∀ x y,
      field.put k x = .ok y ↔ field.put l x = .ok y)
    (each : ∀ name ∈ names fields, Option.Rel Kept.Tabled (there name) (thereToo name)) {x y : σ} :
    fill there fields x = .ok y ↔ fill thereToo fields x = .ok y := by
  induction fields generalizing x with
  | nil => exact Iff.rfl
  | cons field fields ih =>
    rw [List.forall_mem_cons] at reads
    rw [names, List.map_cons, List.forall_mem_cons] at each
    have rest := fun {x} => @ih reads.2 each.2 x
    have head := each.1
    unfold fill
    generalize there field.name = d, thereToo field.name = e at head
    cases head with
    | none => exact rest
    | some tabled => simp only [bind_eq_ok_iff, reads.1 tabled, rest]

end Record

theorem found_tabled {kept tabled : List (String × Kept)}
    (each : List.Forall₂ (fun m n => n.1 = m.1 ∧ m.2.Tabled n.2) kept tabled) (name : String) :
    Option.Rel Kept.Tabled (found kept name) (found tabled name) := by
  induction each with
  | nil => exact .none
  | @cons m n _ _ head _ ih =>
    obtain ⟨other, k⟩ := m
    obtain ⟨otherToo, l⟩ := n
    obtain ⟨rfl, isTable⟩ := head
    by_cases same : otherToo = name
    · rw [found_cons_of_eq same, found_cons_of_eq same]
      exact .some isTable
    · rw [found_cons_of_ne same, found_cons_of_ne same]
      exact ih

theorem Content.decode_members_iff {σ : Type} {r : Record Kept σ}
    (independent : Field.Independent r.fields) {kept : List (String × Kept)} {y : σ} :
    (Content.members kept).decode r = .ok y ↔ (knownNames (Record.names r.fields) kept).Nodup ∧
      (∀ field ∈ r.fields, field.required = true → found kept field.name ≠ none) ∧
      Record.fill (found kept) r.fields r.start = .ok y := by
  change r.ofMembers (read kept) none = .ok y ↔ _
  rw [Record.ofMembers_eq_ok_iff independent]
  constructor
  · rintro ⟨-, named, same, passes, required, filled⟩
    obtain rfl := read_injective same
    exact ⟨passes.unrepeated, required, filled⟩
  · rintro ⟨unrepeated, required, filled⟩
    exact ⟨rfl, kept, rfl, ⟨unrepeated, fun _ _ _ => rfl⟩, required, filled⟩

/-- A tame record is decoded the same from contents that are alike. -/
theorem Content.Alike.decode_iff {σ : Type} {content contentToo : Content}
    (alike : content.Alike contentToo) {r : Record Kept σ} (tame : r.Tame) {y : σ} :
    content.decode r = .ok y ↔ contentToo.decode r = .ok y := by
  cases alike with
  | items each =>
    change r.ofItems _ none = .ok y ↔ r.ofItems _ none = .ok y
    rw [Record.ofItems_eq_ok_iff, Record.ofItems_eq_ok_iff, Record.putItems_alike tame.reads each]
  | @members kept tabled rearranged distinct each same =>
    have sameNames : tabled.map Prod.fst = kept.map Prod.fst := by
      refine List.forall₂_eq_eq_eq ▸ ?_
      rw [List.forall₂_map_left_iff, List.forall₂_map_right_iff]
      exact each.flip.imp fun _ _ both => both.1
    have unrepeated : (knownNames (Record.names r.fields) kept).Nodup := distinct.filter _
    have unrepeatedTabled : (knownNames (Record.names r.fields) tabled).Nodup := by
      unfold knownNames
      rw [sameNames]
      exact unrepeated
    have unrepeatedRearranged : (knownNames (Record.names r.fields) rearranged).Nodup :=
      (knownNames_perm same _).nodup_iff.mpr unrepeatedTabled
    have related : ∀ name ∈ Record.names r.fields,
        Option.Rel Kept.Tabled (found kept name) (found rearranged name) := by
      intro name known
      rw [found_perm same unrepeatedRearranged known]
      exact found_tabled each name
    have there : ∀ name ∈ Record.names r.fields,
        (found kept name ≠ none ↔ found rearranged name ≠ none) := by
      intro name known
      have both := related name known
      generalize found kept name = d, found rearranged name = e at both
      cases both <;> simp
    rw [decode_members_iff tame.independent, decode_members_iff tame.independent,
      Record.fill_alike tame.reads related]
    simp only [unrepeated, unrepeatedRearranged, true_and]
    refine and_congr_left fun _ => forall₂_congr fun field among => ?_
    rw [there _ (List.mem_map_of_mem among)]

/-! ## Flags, numbers and names -/

/-- A decoder that takes neither arrays nor objects cannot tell tables. -/
theorem readsTables_of_leaf {α : Type} {decode : Kept → Except Problem α}
    (array : ∀ items a, decode ⟨.array items⟩ ≠ .ok a)
    (object : ∀ members a, decode ⟨.object members⟩ ≠ .ok a) : ReadsTables decode := by
  rintro ⟨v⟩ ⟨_⟩ ⟨-, rfl⟩ a
  cases v with
  | array items => exact iff_of_false (array _ _) (array _ _)
  | object members => exact iff_of_false (object _ _) (object _ _)
  | _ => exact Iff.rfl

theorem decodeBool_readsTables : ReadsTables (decodeBool : Kept → Except Problem Bool) :=
  readsTables_of_leaf (fun _ _ => refuse_ne_ok) fun _ _ => refuse_ne_ok

theorem decodeSingle_readsTables : ReadsTables (decodeSingle : Kept → Except Problem Single) :=
  readsTables_of_leaf (fun _ _ => refuse_ne_ok) fun _ _ => refuse_ne_ok

theorem decodeUnsigned_readsTables : ReadsTables (decodeUnsigned : Kept → Except Problem UInt64) :=
  readsTables_of_leaf (fun _ _ => refuse_ne_ok) fun _ _ => refuse_ne_ok

/-- A table says nothing exactly if what it was made of says nothing. -/
theorem Kept.Tabled.isUnit_eq {k l : Kept} (tabled : k.Tabled l) : l.isUnit = k.isUnit := by
  obtain ⟨v⟩ := k
  obtain ⟨_⟩ := l
  obtain ⟨distinct, rfl⟩ := tabled
  cases v with
  | object members =>
    obtain ⟨rearranged, same, perm⟩ := Value.collapse_object distinct.1
    rw [same]
    have length := perm.length_eq
    cases members <;> cases rearranged <;> first | rfl | simp at length
  | _ => rfl

/-- What a value says as a name: a string, or the only member of an object, which must be a
unit. -/
inductive Kept.Names : Kept → String → Prop where
  | text (s : String) : Names ⟨.text s⟩ s
  | member {s : String} {v : Value} (unit : Kept.isUnit ⟨v⟩ = true) : Names ⟨.object [(s, v)]⟩ s

theorem decodeNamed_eq_ok_iff {α : Type} [Named α] {k : Kept} {a : α} :
    decodeNamed k = .ok a ↔ ∃ s, k.Names s ∧ ofName s = .ok a := by
  constructor
  · intro decoded
    obtain ⟨selection, selects, named⟩ := bind_eq_ok_iff.mp decoded
    obtain ⟨_, named, carried⟩ := bind_eq_ok_iff.mp named
    obtain ⟨_, unit, same⟩ := bind_eq_ok_iff.mp carried
    obtain ⟨v⟩ := k
    change v.selectAs Kept.mk = .ok selection at selects
    unfold Value.selectAs at selects
    split at selects
    · cases selects
      cases same
      exact ⟨_, .text _, named⟩
    · cases selects
      cases same
      refine ⟨_, .member ?_, named⟩
      by_contra notUnit
      change (if Kept.isUnit _ = true then _ else _) = _ at unit
      rw [if_neg notUnit] at unit
      exact refuse_ne_ok unit
    · cases selects
    · exact absurd selects refuse_ne_ok
  · rintro ⟨s, names, named⟩
    cases names with
    | text s => exact bind_eq_ok_iff.mpr ⟨_, rfl, bind_eq_ok_iff.mpr ⟨a, named, rfl⟩⟩
    | member unit =>
      refine bind_eq_ok_iff.mpr ⟨_, rfl, bind_eq_ok_iff.mpr ⟨a, named, ?_⟩⟩
      exact bind_eq_ok_iff.mpr ⟨(), if_pos unit, rfl⟩

theorem Kept.Tabled.names_iff {k l : Kept} (tabled : k.Tabled l) {s : String} :
    k.Names s ↔ l.Names s := by
  obtain ⟨v⟩ := k
  obtain ⟨_⟩ := l
  obtain ⟨distinct, rfl⟩ := tabled
  cases v with
  | array items => exact ⟨nofun, nofun⟩
  | object members =>
    obtain ⟨rearranged, same, perm⟩ := Value.collapse_object distinct.1
    rw [same]
    constructor
    · intro names
      cases names with
      | @member _ v unit =>
        obtain rfl := List.perm_singleton.mp perm
        have tabled : Kept.Tabled ⟨v⟩ ⟨v.collapse⟩ := ⟨distinct.2.1, rfl⟩
        exact .member (tabled.isUnit_eq.trans unit)
    · intro names
      cases names with
      | member unit =>
        obtain ⟨⟨_, v⟩, rfl, both⟩ :=
          List.map_eq_singleton_iff.mp (List.singleton_perm.mp perm).symm
        cases both
        have tabled : Kept.Tabled ⟨v⟩ ⟨v.collapse⟩ := ⟨distinct.2.1, rfl⟩
        exact .member (tabled.isUnit_eq.symm.trans unit)
  | _ => exact Iff.rfl

theorem decodeNamed_readsTables {α : Type} [Named α] :
    ReadsTables (decodeNamed : Kept → Except Problem α) := by
  intro k l tabled a
  simp only [decodeNamed_eq_ok_iff, tabled.names_iff]

end InCallProximity.Json
