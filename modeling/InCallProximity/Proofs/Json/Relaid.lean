import InCallProximity.Proofs.Json.Building
import Mathlib.Data.List.Forall2
import Mathlib.Data.List.Perm.Basic

/-!
# Objects laid out anew

The members of a written object can be laid out in other ways (`Relaid`): in any order, with blanks
between all tokens, and with further members between them. Whatever the layout, the text stands for
the same members, up to their order and the further ones (`Relaid.reading`).
-/

namespace InCallProximity.Json

/-! ## Layouts -/

/-- A stretch of blanks. -/
def Gap (text : List Char) : Prop := ∀ c ∈ text, isBlank c = true

instance (text : List Char) : Decidable (Gap text) :=
  List.decidableBAll (fun c => isBlank c = true) text

/-- A member as it stands in a text: its key and its value, and what is around them. -/
structure Placed where
  beforeKey : List Char
  key : List Char
  afterKey : List Char
  beforeValue : List Char
  value : List Char
  afterValue : List Char
deriving DecidableEq

namespace Placed

/-- The member as it stands in the text. -/
def text (m : Placed) : List Char :=
  m.beforeKey ++ m.key ++ m.afterKey ++ ':' :: (m.beforeValue ++ m.value ++ m.afterValue)

/-- There are only blanks around the key and the value. -/
structure Spaced (m : Placed) : Prop where
  beforeKey : Gap m.beforeKey
  afterKey : Gap m.afterKey
  beforeValue : Gap m.beforeValue
  afterValue : Gap m.afterValue

instance (m : Placed) : Decidable m.Spaced :=
  decidable_of_iff (Gap m.beforeKey ∧ Gap m.afterKey ∧ Gap m.beforeValue ∧ Gap m.afterValue)
    ⟨fun ⟨a, b, c, d⟩ => ⟨a, b, c, d⟩, fun ⟨a, b, c, d⟩ => ⟨a, b, c, d⟩⟩

/-- The key and the value are those that are written for a member. -/
structure Writes (m : Placed) (member : String × Printed) : Prop where
  key : m.key = Printed.quote member.1
  value : m.value = member.2.render

/-- The key is any string that is read as an unknown name, and the value any text that is read as
a value. The limit to the nesting counts the object around it. -/
structure IsExtra (known : List String) (m : Placed) : Prop where
  key : ∃ name, tokens m.key = [.scalar (.text (some name))] ∧ name ∉ known
  value : ∃ v, readText (Document.keep (nestingLimit - 1)) m.value = .ok v

end Placed

/-- The texts of members with commas between them. -/
def membersText : List Placed → List Char
  | [] => []
  | [m] => m.text
  | m :: rest => m.text ++ ',' :: membersText rest

/-- A text in which the members of a written object are laid out anew: in any order, among extra
ones, with blanks between all tokens. -/
inductive Relaid (members : List (String × Printed)) : List Char → Prop where
  | intro {before after : List Char} {placed own extras : List Placed}
    (gapBefore : Gap before) (gapAfter : Gap after) (spaced : ∀ m ∈ placed, m.Spaced)
    (order : placed.Perm (own ++ extras)) (writes : List.Forall₂ Placed.Writes own members)
    (isExtra : ∀ m ∈ extras, m.IsExtra (members.map Prod.fst)) :
    Relaid members (before ++ '\x7b' :: (membersText placed ++ '\x7d' :: after))

/-- A member without blanks. -/
def Placed.compact (member : String × Printed) : Placed :=
  ⟨[], Printed.quote member.1, [], [], member.2.render, []⟩

theorem membersText_compact (members : List (String × Printed)) :
    membersText (members.map Placed.compact) = Printed.renderMembers members := by
  have text_compact : ∀ member : String × Printed, (Placed.compact member).text =
      Printed.quote member.1 ++ ':' :: member.2.render := by
    intro member
    simp [Placed.text, Placed.compact]
  induction members with
  | nil => rfl
  | cons member rest ih =>
    cases rest with
    | nil => exact text_compact member
    | cons next rest =>
      change (Placed.compact member).text ++ ',' ::
        membersText ((next :: rest).map Placed.compact) = _
      rw [ih, text_compact]
      rfl

/-- A written object is a layout of itself. -/
theorem relaid_render (members : List (String × Printed)) :
    Relaid members (Printed.object members).render := by
  have noGap : Gap [] := nofun
  have same : (Printed.object members).render =
      [] ++ '\x7b' :: (membersText (members.map Placed.compact) ++ '\x7d' :: []) := by
    rw [membersText_compact]
    rfl
  rw [same]
  refine .intro noGap noGap ?_ (.of_eq (List.append_nil _).symm) ?_ nofun
  · intro m among
    obtain ⟨member, -, rfl⟩ := List.mem_map.mp among
    exact ⟨noGap, noGap, noGap, noGap⟩
  · rw [List.forall₂_map_left_iff]
    exact List.forall₂_same.mpr fun _ _ => ⟨rfl, rfl⟩

/-! ## What a layout stands for -/

/-- A member is read as a name and a document. -/
structure Placed.ReadsAs (m : Placed) (named : String × Document) : Prop where
  key : Cuts m.key [.scalar (.text (some named.1))]
  value : Builds m.value named.2

/-- The members are written as these documents. -/
def Written : List (String × Printed) → List (String × Document) → Prop :=
  List.Forall₂ fun member doc => doc.1 = member.1 ∧ Builds member.2.render doc.2

theorem Written.names {members : List (String × Printed)} {docs : List (String × Document)}
    (written : Written members docs) : docs.map Prod.fst = members.map Prod.fst := by
  rw [← List.forall₂_eq_eq_eq, List.forall₂_map_left_iff, List.forall₂_map_right_iff]
  exact written.flip.imp fun _ _ both => both.1

/-- The members of a document with their names as keys. -/
def keyed (named : List (String × Document)) : List (Document × Document) :=
  named.map fun member => (.scalar (.text (some member.1)), member.2)

theorem cuts_of_tokens {text : List Char} {s : String}
    (one : tokens text = [.scalar (.text (some s))]) : Cuts text [.scalar (.text (some s))] := by
  refine ⟨?_, one⟩
  by_contra unsettled
  obtain ⟨ts, t, ends, broken⟩ := Mode.exists_broken unsettled
  have last : Scalar.text (some s) = t := by
    simpa [one] using congrArg List.getLast? ends
  exact broken (.text s) (last ▸ rfl)

theorem Placed.Spaced.cuts {m : Placed} {named : String × Document} (spaced : m.Spaced)
    (reads : m.ReadsAs named) :
    Cuts m.text (.scalar (.text (some named.1)) :: .colon :: tokens m.value) := by
  have key := (reads.key.gap_append spaced.beforeKey).append_gap spaced.afterKey
  have value := ((⟨reads.value.settled, rfl⟩ : Cuts m.value _).gap_append
    spaced.beforeValue).append_gap spaced.afterValue
  exact key.delimited colon_delimits value

open Document Builder

/-- The members of a laid out object are read one after another. -/
theorem exists_cuts_membersText {placed : List Placed} {named : List (String × Document)}
    (spaced : ∀ m ∈ placed, m.Spaced) (reads : List.Forall₂ Placed.ReadsAs placed named)
    (some_member : named ≠ []) (sofar : List (Document × Document)) :
    ∃ s rest, Cuts (membersText placed) (.scalar (.text s) :: rest) ∧
      (Token.scalar (.text s) :: rest).foldl step (.nextKey sofar []) =
        .afterMember ((keyed named).reverse ++ sofar) [] := by
  induction reads generalizing sofar with
  | nil => exact absurd rfl some_member
  | @cons m member placed named read reads ih =>
    rw [List.forall_mem_cons] at spaced
    have cuts := spaced.1.cuts read
    -- the key, the colon and the value, up to the mark after the value
    have runs : (Token.scalar (.text (some member.1)) :: .colon :: tokens m.value).foldl step
        (.nextKey sofar []) = .afterMember (keyed [member] ++ sofar) [] :=
      read.value.inside [.object sofar (.scalar (.text (some member.1)))]
    cases reads with
    | nil => exact ⟨_, _, cuts, runs⟩
    | cons readToo readsToo =>
      obtain ⟨s, rest, cutsRest, runsRest⟩ :=
        ih spaced.2 (List.cons_ne_nil _ _) (keyed [member] ++ sofar)
      refine ⟨_, _, cuts.delimited comma_delimits cutsRest, ?_⟩
      change ((Token.scalar (.text (some member.1)) :: .colon :: tokens m.value) ++ [Token.comma] ++
        Token.scalar (.text s) :: rest).foldl step (.nextKey sofar []) = _
      rw [List.foldl_append, List.foldl_append, runs]
      refine runsRest.trans ?_
      simp [keyed]

theorem view_keyed (named : List (String × Document)) :
    Source.view (Document.object (keyed named) none) = .object (read named) none := by
  change View.object ((keyed named).map _) none = _
  unfold keyed read
  rw [List.map_map]
  rfl

/-- The extra members are read as values of unknown names. -/
theorem exists_extras {known : List String} {extras : List Placed}
    (isExtra : ∀ m ∈ extras, m.IsExtra known) :
    ∃ named, List.Forall₂ Placed.ReadsAs extras named ∧
      ∀ member ∈ named, member.1 ∉ known ∧ ∃ v, member.2.keep (nestingLimit - 1) = .ok v := by
  induction extras with
  | nil => exact ⟨[], .nil, nofun⟩
  | cons m rest ih =>
    rw [List.forall_mem_cons] at isExtra
    obtain ⟨⟨name, one, unknown⟩, v, reads⟩ := isExtra.1
    obtain ⟨d, builds, kept⟩ := exists_builds reads
    obtain ⟨named, readsRest, all⟩ := ih isExtra.2
    refine ⟨(name, d) :: named, .cons ⟨cuts_of_tokens one, builds⟩ readsRest, ?_⟩
    exact List.forall_mem_cons.mpr ⟨⟨unknown, v, kept⟩, all⟩

/-- Members are read as what is written for them is. -/
theorem readsAs_of_writes {own : List Placed} {members : List (String × Printed)}
    {docs : List (String × Document)} (writes : List.Forall₂ Placed.Writes own members)
    (written : Written members docs) :
    List.Forall₂ Placed.ReadsAs own docs := by
  induction writes generalizing docs with
  | nil =>
    cases written
    exact .nil
  | cons write _ ih =>
    obtain _ | ⟨⟨sameName, build⟩, written⟩ := written
    refine .cons ⟨?_, ?_⟩ (ih written)
    · rw [write.key, sameName]
      exact cuts_quote _
    · rwa [write.value]

/-- The text is an object of these members in this order. -/
inductive ObjectText : List (String × Document) → List Char → Prop where
  | empty {before between after : List Char} (gapBefore : Gap before) (gapBetween : Gap between)
      (gapAfter : Gap after) :
    ObjectText [] (before ++ '\x7b' :: (between ++ '\x7d' :: after))
  | members {before after : List Char} {placed : List Placed} {named : List (String × Document)}
      (gapBefore : Gap before) (gapAfter : Gap after) (spaced : ∀ m ∈ placed, m.Spaced)
      (reads : List.Forall₂ Placed.ReadsAs placed named) (some_member : named ≠ []) :
    ObjectText named (before ++ '\x7b' :: (membersText placed ++ '\x7d' :: after))

theorem ObjectText.reading {named : List (String × Document)} {text : List Char}
    (object : ObjectText named text) :
    Reading.ofText text = ⟨.object (keyed named) none, false⟩ := by
  cases object with
  | empty gapBefore gapBetween gapAfter =>
    have inner := (Cuts.of_gap gapBetween).delimited brace_delimits.2 (Cuts.of_gap gapAfter)
    have whole := (Cuts.of_gap gapBefore).delimited brace_delimits.1 inner
    refine Builds.reading ⟨whole.settled, ?_⟩
    rw [whole.tokens]
    rfl
  | members gapBefore gapAfter spaced reads some_member =>
    obtain ⟨s, rest, cuts, runs⟩ := exists_cuts_membersText spaced reads some_member []
    have inner := cuts.delimited brace_delimits.2 (Cuts.of_gap gapAfter)
    have whole := (Cuts.of_gap gapBefore).delimited brace_delimits.1 inner
    refine Builds.reading ⟨whole.settled, ?_⟩
    rw [whole.tokens]
    change ((Token.scalar (.text s) :: rest) ++ [Token.closeObject] ++ []).foldl step
      (.firstKey []) = _
    rw [List.append_nil, List.foldl_append]
    change step ((Token.scalar (.text s) :: rest).foldl step (.nextKey [] [])) .closeObject = _
    rw [runs, List.append_nil]
    change Builder.complete (.object (keyed named).reverse.reverse none) = _
    rw [List.reverse_reverse]

/-- However an object is laid out, it is read as its members, rearranged among values of unknown
names. -/
theorem Relaid.reading {members : List (String × Printed)} {text : List Char}
    (relaid : Relaid members text) {docs : List (String × Document)} (some_member : docs ≠ [])
    (written : Written members docs) :
    ∃ named extras, Reading.ofText text = ⟨.object (keyed named) none, false⟩ ∧
      named.Perm (docs ++ extras) ∧ ∀ member ∈ extras,
        member.1 ∉ members.map Prod.fst ∧ ∃ v, member.2.keep (nestingLimit - 1) = .ok v := by
  obtain ⟨gapBefore, gapAfter, spaced, order, writes, isExtra⟩ := relaid
  obtain ⟨extraDocs, readsExtras, all⟩ := exists_extras isExtra
  have readsOwn := readsAs_of_writes writes written
  obtain ⟨named, reads, same⟩ :=
    List.perm_comp_forall₂ order (List.rel_append readsOwn readsExtras)
  have some_named : named ≠ [] := by
    rintro rfl
    exact some_member (List.append_eq_nil_iff.mp (List.nil_perm.mp same)).1
  have object := ObjectText.members gapBefore gapAfter spaced reads some_named
  exact ⟨named, extraDocs, object.reading, same, all⟩

end InCallProximity.Json
