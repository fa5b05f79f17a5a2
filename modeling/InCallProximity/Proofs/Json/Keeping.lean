import InCallProximity.Proofs.Json.Tags

/-!
# Documents and the values they are kept as

A document that can be kept has a value, part for part. What is decoded of it is decoded of the
value: `Tagged.split_document_iff` says so of tagged objects and arrays, in which the tag is read
from the document itself and all other parts are set aside as values.
-/

namespace InCallProximity.Json

/-! ## Keeping documents -/

namespace Document

theorem keepItems_eq_ok_iff {depth : Nat} {items : List Document} {vs : List Value} :
    keepItems depth items = .ok vs ↔ List.Forall₂ (fun d v => keep depth d = .ok v) items vs := by
  induction items generalizing vs with
  | nil =>
    rw [List.forall₂_nil_left_iff]
    exact ⟨fun kept => by cases kept; rfl, fun empty => by rw [empty]; rfl⟩
  | cons d rest ih =>
    rw [List.forall₂_cons_left_iff, keepItems]
    simp only [bind_eq_ok_iff, ih, pure, Except.pure, Except.ok.injEq]
    constructor
    · rintro ⟨v, kept, more, keptToo, rfl⟩
      exact ⟨v, more, kept, keptToo, rfl⟩
    · rintro ⟨v, more, kept, keptToo, rfl⟩
      exact ⟨v, kept, more, keptToo, rfl⟩

theorem keepMembers_eq_ok_iff {depth : Nat} {members : List (Document × Document)}
    {ws : List (String × Value)} :
    keepMembers depth members = .ok ws ↔
      List.Forall₂ (fun m w => m.1.name = .ok w.1 ∧ keep depth m.2 = .ok w.2) members ws := by
  induction members generalizing ws with
  | nil =>
    rw [List.forall₂_nil_left_iff]
    exact ⟨fun kept => by cases kept; rfl, fun empty => by rw [empty]; rfl⟩
  | cons m rest ih =>
    obtain ⟨key, d⟩ := m
    rw [List.forall₂_cons_left_iff, keepMembers]
    simp only [bind_eq_ok_iff, ih, pure, Except.pure, Except.ok.injEq]
    constructor
    · rintro ⟨name, named, v, kept, more, keptToo, rfl⟩
      exact ⟨(name, v), more, ⟨named, kept⟩, keptToo, rfl⟩
    · rintro ⟨⟨name, v⟩, more, ⟨named, kept⟩, keptToo, rfl⟩
      exact ⟨name, named, v, kept, more, keptToo, rfl⟩

theorem keep_array_iff {depth : Nat} {items : List Document} {fault : Option Fault} {v : Value} :
    keep (depth + 1) (.array items fault) = .ok v ↔
      fault = none ∧ ∃ vs, List.Forall₂ (fun d v => keep depth d = .ok v) items vs ∧
        v = .array vs := by
  rw [keep]
  simp only [bind_eq_ok_iff, keepItems_eq_ok_iff, close_eq_ok_iff, pure, Except.pure,
    Except.ok.injEq]
  constructor
  · rintro ⟨vs, kept, _, closed, rfl⟩
    exact ⟨closed, vs, kept, rfl⟩
  · rintro ⟨closed, vs, kept, rfl⟩
    exact ⟨vs, kept, (), closed, rfl⟩

theorem keep_object_iff {depth : Nat} {members : List (Document × Document)}
    {fault : Option Fault} {v : Value} :
    keep (depth + 1) (.object members fault) = .ok v ↔
      fault = none ∧ ∃ ws, List.Forall₂
        (fun m w => m.1.name = .ok w.1 ∧ keep depth m.2 = .ok w.2) members ws ∧ v = .object ws := by
  rw [keep]
  simp only [bind_eq_ok_iff, keepMembers_eq_ok_iff, close_eq_ok_iff, pure, Except.pure,
    Except.ok.injEq]
  constructor
  · rintro ⟨ws, kept, _, closed, rfl⟩
    exact ⟨closed, ws, kept, rfl⟩
  · rintro ⟨closed, ws, kept, rfl⟩
    exact ⟨ws, kept, (), closed, rfl⟩

theorem ignoreName_of_name {key : Document} {s : String} (named : key.name = .ok s) :
    key.ignoreName = .ok () := by
  unfold name at named
  split at named <;> cases named
  rfl

mutual

/-- What can be kept can be passed over. -/
theorem ignore_of_keep {depth : Nat} : ∀ {d : Document} {v : Value}, keep depth d = .ok v →
    ignore d = .ok ()
  | .scalar s, v, kept => by
    change s.keep = .ok v at kept
    cases s with
    | number n => rfl
    | text s => rfl
    | null | bool => rfl
    | _ => cases kept
  | .array items fault, v, kept => by
    rcases depth with _ | depth
    · cases kept
    · rw [keep] at kept
      obtain ⟨vs, keptItems, closes⟩ := bind_eq_ok_iff.mp kept
      obtain ⟨_, closed, -⟩ := bind_eq_ok_iff.mp closes
      rw [ignore]
      exact bind_eq_ok_iff.mpr ⟨(), ignoreItems_of_keep keptItems, closed⟩
  | .object members fault, v, kept => by
    rcases depth with _ | depth
    · cases kept
    · rw [keep] at kept
      obtain ⟨ws, keptMembers, closes⟩ := bind_eq_ok_iff.mp kept
      obtain ⟨_, closed, -⟩ := bind_eq_ok_iff.mp closes
      rw [ignore]
      exact bind_eq_ok_iff.mpr ⟨(), ignoreMembers_of_keep keptMembers, closed⟩

theorem ignoreItems_of_keep {depth : Nat} : ∀ {items : List Document} {vs : List Value},
    keepItems depth items = .ok vs → ignoreItems items = .ok ()
  | [], _, _ => rfl
  | d :: rest, _, kept => by
    rw [keepItems] at kept
    obtain ⟨_, keptHead, more⟩ := bind_eq_ok_iff.mp kept
    obtain ⟨_, keptRest, -⟩ := bind_eq_ok_iff.mp more
    rw [ignoreItems]
    exact bind_eq_ok_iff.mpr ⟨(), ignore_of_keep keptHead, ignoreItems_of_keep keptRest⟩

theorem ignoreMembers_of_keep {depth : Nat} :
    ∀ {members : List (Document × Document)} {ws : List (String × Value)},
      keepMembers depth members = .ok ws → ignoreMembers members = .ok ()
  | [], _, _ => rfl
  | (key, d) :: rest, _, kept => by
    rw [keepMembers] at kept
    obtain ⟨_, named, more⟩ := bind_eq_ok_iff.mp kept
    obtain ⟨_, keptHead, more⟩ := bind_eq_ok_iff.mp more
    obtain ⟨_, keptRest, -⟩ := bind_eq_ok_iff.mp more
    rw [ignoreMembers]
    exact bind_eq_ok_iff.mpr ⟨(), ignoreName_of_name named, bind_eq_ok_iff.mpr
      ⟨(), ignore_of_keep keptHead, ignoreMembers_of_keep keptRest⟩⟩

end

theorem view_eq_text_iff {d : Document} {s : String} :
    Source.view d = .text s ↔ d = .scalar (.text (some s)) := by
  constructor
  · intro viewed
    change Document.view d = .text s at viewed
    unfold Document.view at viewed
    split at viewed <;> cases viewed
    rfl
  · rintro rfl
    rfl

theorem exists_object {d : Document} {members : List (Except Problem String × Document)}
    {fault : Option Fault} (viewed : Source.view d = .object members fault) :
    ∃ inside, d = .object inside fault ∧ members = inside.map fun m => (m.1.name, m.2) := by
  change Document.view d = _ at viewed
  unfold Document.view at viewed
  split at viewed <;> cases viewed
  exact ⟨_, rfl, rfl⟩

theorem view_eq_array_iff {d : Document} {items : List Document} {fault : Option Fault} :
    Source.view d = .array items fault ↔ d = .array items fault := by
  constructor
  · intro viewed
    change Document.view d = _ at viewed
    unfold Document.view at viewed
    split at viewed <;> cases viewed
    rfl
  · rintro rfl
    rfl

theorem keep_eq_text_iff {depth : Nat} {d : Document} {s : String} :
    d.keep depth = .ok (.text s) ↔ d = .scalar (.text (some s)) := by
  cases d with
  | scalar t =>
    rw [keep]
    constructor
    · intro kept
      unfold Scalar.keep at kept
      split at kept <;> cases kept
      rfl
    · rintro ⟨⟩
      rfl
  | array items fault =>
    refine ⟨fun kept => ?_, nofun⟩
    rcases depth with _ | depth
    · cases kept
    · obtain ⟨-, vs, -, same⟩ := keep_array_iff.mp kept
      cases same
  | object members fault =>
    refine ⟨fun kept => ?_, nofun⟩
    rcases depth with _ | depth
    · cases kept
    · obtain ⟨-, ws, -, same⟩ := keep_object_iff.mp kept
      cases same

end Document

theorem readText_eq_ok_iff {α : Type} {read : Document → Except Problem α} {text : List Char}
    {a : α} :
    readText read text = .ok a ↔
      read (Reading.ofText text).document = .ok a ∧ (Reading.ofText text).excess = false := by
  unfold readText
  rw [bind_eq_ok_iff]
  cases (Reading.ofText text).excess <;> simp [pure, Except.pure]

namespace Tagged

variable {τ : Type} [Named τ]

/-- A kept document has the tag that its value has, and what has a tag can be kept. -/
theorem decodeTag_document_iff (depth : Nat) {d : Document} {t : τ} :
    decodeTag d = .ok t ↔ ∃ v, d.keep depth = .ok v ∧ decodeTag v = .ok t := by
  simp only [decodeTag_eq_ok_iff, Document.view_eq_text_iff]
  constructor
  · rintro ⟨s, rfl, named⟩
    exact ⟨.text s, rfl, s, rfl, named⟩
  · rintro ⟨v, kept, s, viewed, named⟩
    refine ⟨s, ?_, named⟩
    obtain rfl : v = .text s := Value.view_eq_text_iff.mp viewed
    exact Document.keep_eq_text_iff.mp kept

/-- The members of a document are sorted as those of its value are. -/
theorem keepMembers_document_iff {members : List (Document × Document)} {tag : Option τ}
    {outcome : Option τ × List (String × Kept)} :
    keepMembers (members.map fun m => (m.1.name, m.2)) tag = .ok outcome ↔
      ∃ ws, List.Forall₂ (fun m w => m.1.name = .ok w.1 ∧
          m.2.keep (nestingLimit - 1) = .ok w.2) members ws ∧
        keepMembers (read ws) tag = .ok outcome := by
  induction members generalizing tag outcome with
  | nil =>
    simp only [List.forall₂_nil_left_iff, exists_eq_left]
    rfl
  | cons m rest ih =>
    obtain ⟨key, d⟩ := m
    simp only [List.map_cons, List.forall₂_cons_left_iff]
    cases key.name with
    | error problem =>
      refine ⟨nofun, ?_⟩
      rintro ⟨_, ⟨_, _, ⟨same, -⟩, -, -⟩, -⟩
      cases same
    | ok name =>
      by_cases isTag : name = "type"
      · rw [keepMembers_tag_iff isTag]
        constructor
        · rintro ⟨rfl, t, decodes, rests⟩
          obtain ⟨v, kept, decodesToo⟩ := (decodeTag_document_iff _).mp decodes
          obtain ⟨ws, keptToo, restsToo⟩ := ih.mp rests
          refine ⟨(name, v) :: ws, ⟨_, ws, ⟨rfl, kept⟩, keptToo, rfl⟩, ?_⟩
          exact (keepMembers_tag_iff isTag).mpr ⟨rfl, t, decodesToo, restsToo⟩
        · rintro ⟨_, ⟨⟨_, v⟩, ws, ⟨same, kept⟩, keptToo, rfl⟩, sorted⟩
          cases same
          obtain ⟨rfl, t, decodes, rests⟩ := (keepMembers_tag_iff isTag).mp sorted
          exact ⟨rfl, t, (decodeTag_document_iff _).mpr ⟨v, kept, decodes⟩,
            ih.mpr ⟨ws, keptToo, rests⟩⟩
      · obtain ⟨tagToo, sortedAs⟩ := outcome
        rw [keepMembers_other_iff isTag]
        constructor
        · rintro ⟨v, later, kept, rests, rfl⟩
          obtain ⟨ws, keptToo, restsToo⟩ := ih.mp rests
          refine ⟨(name, v) :: ws, ⟨_, ws, ⟨rfl, kept⟩, keptToo, rfl⟩, ?_⟩
          exact (keepMembers_other_iff isTag).mpr ⟨v, later, rfl, restsToo, rfl⟩
        · rintro ⟨_, ⟨⟨_, v⟩, ws, ⟨same, kept⟩, keptToo, rfl⟩, sorted⟩
          cases same
          obtain ⟨_, later, ⟨⟩, rests, rfl⟩ := (keepMembers_other_iff isTag).mp sorted
          exact ⟨v, later, kept, ih.mpr ⟨ws, keptToo, rests⟩, rfl⟩

/-- The items of a document are set aside as those of its value are. -/
theorem keepItems_document_iff {items : List Document} {kept : List Kept} :
    List.Forall₂ (fun d k => Source.keep d = .ok k.value) items kept ↔
      List.Forall₂ (fun d v => d.keep (nestingLimit - 1) = .ok v) items (kept.map Kept.value) := by
  rw [List.forall₂_map_right_iff]
  rfl

theorem split_document_object {title : String} {members : List (Document × Document)}
    {fault : Option Fault} {t : τ} {content : Content} :
    split title (Document.object members fault) = .ok (t, content) ↔
      ∃ v, Document.keep (nestingLimit - 1 + 1) (.object members fault) = .ok v ∧
        split title v = .ok (t, content) := by
  rw [split_of_object (d := Document.object members fault) rfl]
  simp only [keepMembers_document_iff, Document.keep_object_iff]
  constructor
  · rintro ⟨closed, kept, ⟨ws, reads, sorted⟩, rfl⟩
    exact ⟨_, ⟨closed, ws, reads, rfl⟩,
      (split_of_object (d := Value.object ws) rfl).mpr ⟨rfl, kept, sorted, rfl⟩⟩
  · rintro ⟨_, ⟨closed, ws, reads, rfl⟩, splits⟩
    obtain ⟨-, kept, sorted, rfl⟩ := (split_of_object (d := Value.object ws) rfl).mp splits
    exact ⟨closed, kept, ⟨ws, reads, sorted⟩, rfl⟩

theorem split_document_array {title : String} {items : List Document} {fault : Option Fault} {t : τ}
    {content : Content} :
    split title (Document.array items fault) = .ok (t, content) ↔
      ∃ v, Document.keep (nestingLimit - 1 + 1) (.array items fault) = .ok v ∧
        split title v = .ok (t, content) := by
  rw [split_array_iff (d := Document.array items fault) rfl]
  simp only [Document.keep_array_iff]
  constructor
  · rintro ⟨closed, first, rest, kept, rfl, decodes, aside, rfl⟩
    obtain ⟨v, reads, decodesToo⟩ := (decodeTag_document_iff (nestingLimit - 1)).mp decodes
    refine ⟨_, ⟨closed, v :: kept.map Kept.value,
      .cons reads (keepItems_document_iff.mp aside), rfl⟩, ?_⟩
    refine (split_array_iff (d := Value.array (v :: kept.map Kept.value)) rfl).mpr
      ⟨rfl, v, kept.map Kept.value, kept, List.map_id _, decodesToo, ?_, rfl⟩
    rw [List.forall₂_map_left_iff]
    exact List.forall₂_same.mpr fun _ _ => rfl
  · rintro ⟨_, ⟨closed, vs, reads, rfl⟩, splits⟩
    obtain ⟨-, first, rest, kept, split, decodes, aside, rfl⟩ :=
      (split_array_iff (d := Value.array vs) rfl).mp splits
    obtain rfl : vs = first :: rest := (List.map_id vs).symm.trans split
    obtain ⟨d, items, readsFirst, readsRest, rfl⟩ := List.forall₂_cons_right_iff.mp reads
    refine ⟨closed, d, items, kept, rfl,
      (decodeTag_document_iff _).mpr ⟨first, readsFirst, decodes⟩, ?_, rfl⟩
    have same : rest = kept.map Kept.value := by
      refine List.forall₂_eq_eq_eq ▸ (List.forall₂_map_right_iff.mpr (aside.imp ?_))
      intro v k keeps
      exact Except.ok.inj keeps
    rw [keepItems_document_iff, ← same]
    exact readsRest

/-- A document splits into the parts that its value splits into. -/
theorem split_document_iff {title : String} {d : Document} {t : τ} {content : Content} :
    split title d = .ok (t, content) ↔
      ∃ v, d.keep nestingLimit = .ok v ∧ split title v = .ok (t, content) := by
  cases d with
  | object members fault => exact split_document_object
  | array items fault => exact split_document_array
  | scalar s =>
    constructor
    · intro splits
      rcases view_of_split splits with ⟨members, fault, viewed⟩ | ⟨items, fault, viewed⟩
      · obtain ⟨_, same, -⟩ := Document.exists_object viewed
        cases same
      · cases Document.view_eq_array_iff.mp viewed
    · rintro ⟨v, kept, splits⟩
      rw [Document.keep] at kept
      unfold Scalar.keep at kept
      split at kept <;> cases kept <;>
        (rcases view_of_split splits with ⟨_, _, viewed⟩ | ⟨_, _, viewed⟩ <;> cases viewed)

end Tagged

end InCallProximity.Json
