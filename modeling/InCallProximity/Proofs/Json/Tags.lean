import InCallProximity.Json.Tagged
import InCallProximity.Proofs.Json.Records

/-!
# Tagged objects by lookup

The members of a tagged object are sorted as they are read: those named `type` give the tag, the
others are set aside. When that succeeds, the outcome depends on the two sorts alone, each in its
order (`Tagged.tags`, `Tagged.others`). `Tagged.split_object_iff` says so of objects, and
`Tagged.split_array_iff` what arrays split into.
-/

namespace InCallProximity.Json

theorem Value.view_eq_text_iff {v : Value} {s : String} :
    Source.view v = .text s ↔ v = .text s := by
  constructor
  · intro viewed
    cases v <;> cases viewed
    rfl
  · rintro rfl
    rfl

namespace Tagged

variable {δ : Type}

/-- The members that name the kind. -/
def tags (named : List (String × δ)) : List (String × δ) := named.filter (·.1 = "type")

/-- The members that do not name the kind. -/
def others (named : List (String × δ)) : List (String × δ) := named.filter (·.1 ≠ "type")

theorem tags_cons_of_eq {name : String} (isTag : name = "type") (d : δ)
    (named : List (String × δ)) : tags ((name, d) :: named) = (name, d) :: tags named := by
  simp [tags, isTag]

theorem tags_cons_of_ne {name : String} (isOther : name ≠ "type") (d : δ)
    (named : List (String × δ)) : tags ((name, d) :: named) = tags named := by
  simp [tags, isOther]

theorem others_cons_of_eq {name : String} (isTag : name = "type") (d : δ)
    (named : List (String × δ)) : others ((name, d) :: named) = others named := by
  simp [others, isTag]

theorem others_cons_of_ne {name : String} (isOther : name ≠ "type") (d : δ)
    (named : List (String × δ)) : others ((name, d) :: named) = (name, d) :: others named := by
  simp [others, isOther]

theorem others_eq_self {named : List (String × δ)}
    (untagged : ∀ member ∈ named, member.1 ≠ "type") : others named = named :=
  List.filter_eq_self.mpr fun member among => decide_eq_true (untagged member among)

theorem tags_eq_nil {named : List (String × δ)}
    (untagged : ∀ member ∈ named, member.1 ≠ "type") : tags named = [] :=
  List.filter_eq_nil_iff.mpr fun member among isTag =>
    untagged member among (of_decide_eq_true isTag)

theorem requireTag_eq_ok_iff {τ : Type} {tag : Option τ} {t : τ} :
    requireTag tag = .ok t ↔ tag = some t := by
  cases tag <;> simp [requireTag]

variable [Source δ] {τ : Type} [Named τ]

theorem decodeTag_eq_ok_iff {d : δ} {t : τ} :
    decodeTag d = .ok t ↔ ∃ s, Source.view d = .text s ∧ ofName s = .ok t := by
  unfold decodeTag
  cases viewed : Source.view d with
  | text s => simp
  | _ => exact ⟨fun named => absurd named refuse_ne_ok, by rintro ⟨_, same, -⟩; cases same⟩

/-- The tag after members that name the kind, if there was a tag before them or none. -/
inductive IsTag : Option τ → List (String × δ) → Option τ → Prop where
  | kept (tag : Option τ) : IsTag tag [] tag
  | decoded {name : String} {d : δ} {tag : τ} (decodes : decodeTag d = .ok tag) :
      IsTag none [(name, d)] (some tag)

/-- After a tag there is no other. -/
theorem isTag_some_iff {t : τ} {named : List (String × δ)} {tag : Option τ} :
    IsTag (some t) named tag ↔ named = [] ∧ tag = some t := by
  constructor
  · intro isTag
    cases isTag
    exact ⟨rfl, rfl⟩
  · rintro ⟨rfl, rfl⟩
    exact .kept _

/-- The members can be set aside, as these. -/
def SetAside : List (String × δ) → List (String × Kept) → Prop :=
  List.Forall₂ fun member kept => kept.1 = member.1 ∧ Source.keep member.2 = .ok kept.2.value

theorem keepMembers_cons (name : String) (d : δ) (rest : List (Except Problem String × δ))
    (tag : Option τ) :
    keepMembers ((.ok name, d) :: rest) tag =
      if name = "type" then
        if tag.isSome then .error (.data (.repeatedMember name))
        else decodeTag d >>= fun found => keepMembers rest (some found)
      else Source.keep d >>= fun value => keepMembers rest tag >>= fun (tag, kept) =>
        .ok (tag, (name, ⟨value⟩) :: kept) := rfl

theorem keepMembers_tag_iff {name : String} (isTag : name = "type") {d : δ}
    {rest : List (Except Problem String × δ)} {tag : Option τ}
    {sorted : Option τ × List (String × Kept)} :
    keepMembers ((.ok name, d) :: rest) tag = .ok sorted ↔
      tag = none ∧ ∃ t, decodeTag d = .ok t ∧ keepMembers rest (some t) = .ok sorted := by
  rw [keepMembers_cons, if_pos isTag]
  cases tag with
  | none => simp [bind_eq_ok_iff]
  | some earlier => simp

theorem keepMembers_other_iff {name : String} (isOther : name ≠ "type") {d : δ}
    {rest : List (Except Problem String × δ)} {tag tagToo : Option τ}
    {kept : List (String × Kept)} :
    keepMembers ((.ok name, d) :: rest) tag = .ok (tagToo, kept) ↔
      ∃ value later, Source.keep d = .ok value ∧ keepMembers rest tag = .ok (tagToo, later) ∧
        kept = (name, ⟨value⟩) :: later := by
  rw [keepMembers_cons, if_neg isOther]
  simp only [bind_eq_ok_iff, Prod.exists, Except.ok.injEq, Prod.mk.injEq]
  constructor
  · rintro ⟨value, keeps, _, later, rests, rfl, rfl⟩
    exact ⟨value, later, keeps, rests, rfl⟩
  · rintro ⟨value, later, keeps, rests, rfl⟩
    exact ⟨value, keeps, tagToo, later, rests, rfl, rfl⟩

theorem keepMembers_eq_ok_iff {members : List (Except Problem String × δ)} {tag tagToo : Option τ}
    {kept : List (String × Kept)} :
    keepMembers members tag = .ok (tagToo, kept) ↔
      ∃ named, members = read named ∧ IsTag tag (tags named) tagToo ∧
        SetAside (others named) kept := by
  induction members generalizing tag tagToo kept with
  | nil =>
    constructor
    · intro outcome
      cases outcome
      exact ⟨[], rfl, .kept _, .nil⟩
    · rintro ⟨named, empty, isTag, aside⟩
      obtain rfl : named = [] := List.map_eq_nil_iff.mp empty.symm
      cases isTag
      cases aside
      rfl
  | cons head rest ih =>
    obtain ⟨key, d⟩ := head
    rw [exists_read_cons]
    cases key with
    | error problem =>
      refine ⟨nofun, ?_⟩
      rintro ⟨_, _, same, -⟩
      cases same
    | ok name =>
      by_cases isTag : name = "type"
      · rw [keepMembers_tag_iff isTag]
        constructor
        · rintro ⟨rfl, found, decodes, rests⟩
          obtain ⟨named, rfl, noMore, aside⟩ := ih.mp rests
          rw [isTag_some_iff] at noMore
          refine ⟨name, named, rfl, rfl, ?_, ?_⟩
          · rw [tags_cons_of_eq isTag, noMore.1, noMore.2]
            exact .decoded decodes
          · rwa [others_cons_of_eq isTag]
        · rintro ⟨_, named, same, rfl, isTagToo, aside⟩
          cases same
          rw [tags_cons_of_eq isTag] at isTagToo
          rw [others_cons_of_eq isTag] at aside
          generalize more : tags named = later at isTagToo
          cases isTagToo with
          | decoded decodes =>
            exact ⟨rfl, _, decodes, ih.mpr ⟨named, rfl, isTag_some_iff.mpr ⟨more, rfl⟩, aside⟩⟩
      · simp only [keepMembers_other_iff isTag, ih]
        constructor
        · rintro ⟨value, later, keeps, ⟨named, rfl, isTagToo, aside⟩, rfl⟩
          refine ⟨name, named, rfl, rfl, ?_, ?_⟩
          · rwa [tags_cons_of_ne isTag]
          · rw [others_cons_of_ne isTag]
            exact .cons ⟨rfl, keeps⟩ aside
        · rintro ⟨_, named, same, rfl, isTagToo, aside⟩
          cases same
          rw [tags_cons_of_ne isTag] at isTagToo
          rw [others_cons_of_ne isTag] at aside
          rcases aside with _ | ⟨⟨sameName, keeps⟩, aside⟩
          exact ⟨_, _, keeps, ⟨named, rfl, isTagToo, aside⟩,
            congrArg (· :: _) (Prod.ext sameName rfl)⟩

theorem keepItems_eq_ok_iff {items : List δ} {kept : List Kept} :
    keepItems items = .ok kept ↔
      List.Forall₂ (fun d k => Source.keep d = .ok k.value) items kept := by
  induction items generalizing kept with
  | nil =>
    rw [List.forall₂_nil_left_iff]
    exact ⟨fun outcome => by cases outcome; rfl, fun empty => by rw [empty]; rfl⟩
  | cons d rest ih =>
    rw [List.forall₂_cons_left_iff]
    unfold keepItems
    simp only [bind_eq_ok_iff, ih]
    constructor
    · rintro ⟨value, keeps, more, aside, same⟩
      cases same
      exact ⟨⟨value⟩, more, keeps, aside, rfl⟩
    · rintro ⟨⟨value⟩, more, keeps, aside, rfl⟩
      exact ⟨value, keeps, more, aside, rfl⟩

theorem split_of_object {title : String} {d : δ} {members : List (Except Problem String × δ)}
    {fault : Option Fault} (viewed : Source.view d = .object members fault) {t : τ}
    {content : Content} :
    split title d = .ok (t, content) ↔
      fault = none ∧ ∃ kept, keepMembers members none = .ok (some t, kept) ∧
        content = .members kept := by
  unfold split
  rw [viewed]
  simp only [bind_eq_ok_iff, Prod.exists, close_eq_ok_iff, requireTag_eq_ok_iff, pure, Except.pure,
    Except.ok.injEq, Prod.mk.injEq]
  constructor
  · rintro ⟨_, kept, sorted, _, closed, _, rfl, rfl, rfl⟩
    exact ⟨closed, kept, sorted, rfl⟩
  · rintro ⟨closed, kept, sorted, rfl⟩
    exact ⟨_, kept, sorted, (), closed, t, rfl, rfl, rfl⟩

/-- An object splits into the tag that its members give and the other members, in their order. -/
theorem split_object_iff {title : String} {d : δ} {members : List (Except Problem String × δ)}
    {fault : Option Fault} (viewed : Source.view d = .object members fault) {t : τ}
    {content : Content} :
    split title d = .ok (t, content) ↔
      fault = none ∧ ∃ named kept, members = read named ∧ IsTag none (tags named) (some t) ∧
        SetAside (others named) kept ∧ content = .members kept := by
  rw [split_of_object viewed]
  simp only [keepMembers_eq_ok_iff]
  constructor
  · rintro ⟨closed, kept, ⟨named, members, isTag, aside⟩, same⟩
    exact ⟨closed, named, kept, members, isTag, aside, same⟩
  · rintro ⟨closed, named, kept, members, isTag, aside, same⟩
    exact ⟨closed, kept, ⟨named, members, isTag, aside⟩, same⟩

/-- Members can be rearranged around the tag, and members of other names come and go. -/
theorem split_extended (title : String) {d : δ} {members : List (String × δ)}
    (viewed : Source.view d = .object (read members) none) {t : τ} {tag : δ}
    (decodes : decodeTag tag = .ok t) {own extras : List (String × δ)}
    (same : members.Perm (("type", tag) :: (own ++ extras)))
    (untagged : ∀ member ∈ own ++ extras, member.1 ≠ "type") {kept : List (String × Kept)}
    (aside : SetAside own kept) (keeps : ∀ member ∈ extras, ∃ v, Source.keep member.2 = .ok v) :
    ∃ keptAll keptExtras, split title d = .ok (t, .members keptAll) ∧
      keptAll.Perm (kept ++ keptExtras) ∧
      ∀ member ∈ keptExtras, member.1 ∈ extras.map Prod.fst := by
  have asideExtras : ∃ keptExtras, SetAside extras keptExtras := by
    clear same untagged
    induction extras with
    | nil => exact ⟨[], .nil⟩
    | cons member rest ih =>
      rw [List.forall_mem_cons] at keeps
      obtain ⟨v, keep⟩ := keeps.1
      obtain ⟨more, asideRest⟩ := ih keeps.2
      exact ⟨(member.1, ⟨v⟩) :: more, .cons ⟨rfl, keep⟩ asideRest⟩
  obtain ⟨keptExtras, asideExtras⟩ := asideExtras
  have othersSame : (others members).Perm (own ++ extras) := by
    have sorted : (others members).Perm (others (("type", tag) :: (own ++ extras))) := same.filter _
    rwa [others_cons_of_eq rfl, others_eq_self untagged] at sorted
  have isTag : IsTag none (tags members) (some t) := by
    have sorted : (tags members).Perm (tags (("type", tag) :: (own ++ extras))) := same.filter _
    rw [tags_cons_of_eq rfl, tags_eq_nil untagged] at sorted
    rw [List.perm_singleton.mp sorted]
    exact .decoded decodes
  obtain ⟨keptAll, asideAll, rearranged⟩ :=
    List.perm_comp_forall₂ othersSame (List.rel_append aside asideExtras)
  refine ⟨keptAll, keptExtras, ?_, rearranged, ?_⟩
  · exact (split_object_iff viewed).mpr ⟨rfl, members, keptAll, rfl, isTag, asideAll, rfl⟩
  · have names : keptExtras.map Prod.fst = extras.map Prod.fst := by
      rw [← List.forall₂_eq_eq_eq, List.forall₂_map_left_iff, List.forall₂_map_right_iff]
      exact asideExtras.flip.imp fun _ _ both => both.1
    exact fun member among => names ▸ List.mem_map_of_mem among

/-- An array splits into the tag of its first item and the other items. -/
theorem split_array_iff {title : String} {d : δ} {items : List δ} {fault : Option Fault}
    (viewed : Source.view d = .array items fault) {t : τ} {content : Content} :
    split title d = .ok (t, content) ↔
      fault = none ∧ ∃ first rest kept, items = first :: rest ∧ decodeTag first = .ok t ∧
        List.Forall₂ (fun d k => Source.keep d = .ok k.value) rest kept ∧
        content = .items kept := by
  unfold split
  rw [viewed]
  cases items with
  | nil =>
    simp only [bind_eq_ok_iff]
    constructor
    · rintro ⟨_, -, refused⟩
      cases refused
    · rintro ⟨-, _, _, _, empty, -⟩
      cases empty
  | cons first rest =>
    simp only [bind_eq_ok_iff, close_eq_ok_iff, keepItems_eq_ok_iff, pure, Except.pure,
      Except.ok.injEq, Prod.mk.injEq, List.cons.injEq]
    constructor
    · rintro ⟨_, decodes, kept, aside, _, closed, rfl, rfl⟩
      exact ⟨closed, first, rest, kept, ⟨rfl, rfl⟩, decodes, aside, rfl⟩
    · rintro ⟨closed, _, _, kept, ⟨rfl, rfl⟩, decodes, aside, rfl⟩
      exact ⟨t, decodes, kept, aside, (), closed, rfl, rfl⟩

/-- Only objects and arrays are tagged. -/
theorem view_of_split {title : String} {d : δ} {parts : τ × Content}
    (splits : split title d = .ok parts) :
    (∃ members fault, Source.view d = .object members fault) ∨
      ∃ items fault, Source.view d = .array items fault := by
  unfold split at splits
  cases viewed : Source.view d with
  | object members fault => exact Or.inl ⟨members, fault, rfl⟩
  | array items fault => exact Or.inr ⟨items, fault, rfl⟩
  | _ =>
    rw [viewed] at splits
    exact absurd splits refuse_ne_ok

end Tagged

end InCallProximity.Json
