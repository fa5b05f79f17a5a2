import InCallProximity.Wire.Content
import Mathlib.Data.List.Perm.Basic
import Mathlib.Data.List.Nodup

/-!
# Records by lookup

A record is decoded member by member, in the order of the source. When that succeeds, the outcome
does not depend on the order: it is what one gets by looking up each field by its name
(`Record.fill`). So members can be rearranged, and those of unknown names come and go.

`Record.ofMembers_eq_ok_iff` says so of records whose fields do not get into each other's way
(`Field.Independent`), which is what fields are that set different parts (`Field.commutes_of_set`).
-/

namespace InCallProximity.Json

/-! ## Outcomes of steps -/

theorem bind_eq_ok_iff {ε α β : Type} {first : Except ε α} {next : α → Except ε β} {b : β} :
    (first >>= next) = .ok b ↔ ∃ a, first = .ok a ∧ next a = .ok b := by
  cases first with
  | error problem => exact ⟨nofun, nofun⟩
  | ok a =>
    constructor
    · exact fun outcome => ⟨a, rfl, outcome⟩
    · rintro ⟨_, same, outcome⟩
      cases same
      exact outcome

theorem map_eq_ok_iff {ε α β : Type} {first : Except ε α} {f : α → β} {b : β} :
    first.map f = .ok b ↔ ∃ a, first = .ok a ∧ f a = b := by
  cases first with
  | error problem => exact ⟨nofun, nofun⟩
  | ok a => simp [Except.map]

theorem close_eq_ok_iff {fault : Option Fault} {u : Unit} :
    close fault = .ok u ↔ fault = none := by
  cases fault <;> simp [close]

/-! ## Members with names -/

theorem refuse_ne_ok {δ α : Type} {v : View δ} {expected : String} {a : α} :
    (v.refuse expected : Except Problem α) ≠ .ok a := by
  unfold View.refuse
  cases v.found <;> nofun

variable {δ σ α β : Type}

/-- Members whose names were read. -/
def read (named : List (String × δ)) : List (Except Problem String × δ) :=
  named.map fun member => (.ok member.1, member.2)

theorem read_injective {named other : List (String × δ)} (same : read named = read other) :
    named = other := by
  refine List.map_injective_iff.mpr ?_ same
  rintro ⟨name, d⟩ ⟨nameToo, e⟩ equal
  cases equal
  rfl

/-- To say something of the names of members is to say it of the first one and of the others. -/
theorem exists_read_cons {key : Except Problem String} {d : δ}
    {rest : List (Except Problem String × δ)} {holds : List (String × δ) → Prop} :
    (∃ named, (key, d) :: rest = read named ∧ holds named) ↔
      ∃ name named, key = .ok name ∧ rest = read named ∧ holds ((name, d) :: named) := by
  constructor
  · rintro ⟨_ | ⟨⟨name, e⟩, named⟩, same, true_of⟩
    · cases same
    · obtain ⟨head, tail⟩ := List.cons.inj same
      cases head
      exact ⟨name, named, rfl, tail, true_of⟩
  · rintro ⟨name, named, rfl, rfl, true_of⟩
    exact ⟨(name, d) :: named, rfl, true_of⟩

/-- The value of the first member of a name. -/
def found (named : List (String × δ)) (name : String) : Option δ :=
  (named.find? (·.1 = name)).map (·.2)

/-- The names of members that are known, in order. -/
def knownNames (known : List String) (named : List (String × δ)) : List String :=
  (named.map Prod.fst).filter (· ∈ known)

@[simp] theorem found_nil (name : String) : found ([] : List (String × δ)) name = none := rfl

theorem found_cons_of_eq {name other : String} (same : name = other) (d : δ)
    (rest : List (String × δ)) : found ((name, d) :: rest) other = some d := by
  simp [found, same]

theorem found_cons_of_ne {name other : String} (differ : name ≠ other) (d : δ)
    (rest : List (String × δ)) : found ((name, d) :: rest) other = found rest other := by
  simp [found, differ]

theorem found_eq_none_iff {named : List (String × δ)} {name : String} :
    found named name = none ↔ name ∉ named.map Prod.fst := by
  unfold found
  simp only [Option.map_eq_none_iff, List.find?_eq_none, decide_eq_true_eq, List.mem_map,
    not_exists, not_and]

theorem found_append (named other : List (String × δ)) (name : String) :
    found (named ++ other) name = (found named name).or (found other name) := by
  unfold found
  rw [List.find?_append]
  cases named.find? (·.1 = name) <;> rfl

theorem knownNames_cons_of_mem {known : List String} {name : String} (isKnown : name ∈ known)
    (d : δ) (rest : List (String × δ)) :
    knownNames known ((name, d) :: rest) = name :: knownNames known rest := by
  simp [knownNames, isKnown]

theorem knownNames_cons_of_not_mem {known : List String} {name : String} (unknown : name ∉ known)
    (d : δ) (rest : List (String × δ)) :
    knownNames known ((name, d) :: rest) = knownNames known rest := by
  simp [knownNames, unknown]

theorem mem_knownNames {known : List String} {named : List (String × δ)} {name : String} :
    name ∈ knownNames known named ↔ name ∈ named.map Prod.fst ∧ name ∈ known := by
  simp [knownNames]

/-- The members of a known name that does not repeat are the one that is found. -/
theorem found_eq_some_iff {known : List String} {named : List (String × δ)} {name : String} {d : δ}
    (isKnown : name ∈ known) (unrepeated : (knownNames known named).Nodup) :
    found named name = some d ↔ (name, d) ∈ named := by
  induction named with
  | nil => simp [found]
  | cons head rest ih =>
    obtain ⟨other, e⟩ := head
    by_cases same : other = name
    · subst same
      rw [knownNames_cons_of_mem isKnown, List.nodup_cons, mem_knownNames] at unrepeated
      have only : (other, d) ∉ rest := fun among =>
        unrepeated.1 ⟨List.mem_map_of_mem among, isKnown⟩
      rw [found_cons_of_eq rfl]
      simp [only, eq_comm]
    · have unrepeatedRest : (knownNames known rest).Nodup := by
        by_cases isKnownToo : other ∈ known
        · rw [knownNames_cons_of_mem isKnownToo] at unrepeated
          exact unrepeated.of_cons
        · rwa [knownNames_cons_of_not_mem isKnownToo] at unrepeated
      rw [found_cons_of_ne same, ih unrepeatedRest]
      simp [Ne.symm same]

theorem knownNames_perm {named other : List (String × δ)} (same : named.Perm other)
    (known : List String) : (knownNames known named).Perm (knownNames known other) :=
  (same.map _).filter _

/-- Rearranging members changes nothing about a name that does not repeat. -/
theorem found_perm {named other : List (String × δ)} (same : named.Perm other) {known : List String}
    (unrepeated : (knownNames known named).Nodup) {name : String} (isKnown : name ∈ known) :
    found named name = found other name := by
  have unrepeatedToo := (knownNames_perm same known).nodup_iff.mp unrepeated
  ext d
  rw [found_eq_some_iff isKnown unrepeated, found_eq_some_iff isKnown unrepeatedToo, same.mem_iff]

/-! ## Records -/

/-- Two fields can be put in any order. -/
def Field.Commutes (f g : Field δ σ) : Prop :=
  ∀ d e x y, (f.put d x >>= g.put e) = .ok y ↔ (g.put e x >>= f.put d) = .ok y

/-- Fields that do not get into each other's way. -/
structure Field.Independent (fields : List (Field δ σ)) : Prop where
  names : (fields.map Field.name).Nodup
  commute : fields.Pairwise Field.Commutes

/-- Fields whose parts can be set in any order commute. -/
theorem Field.commutes_of_set {f g : Field δ σ} {decode : δ → Except Problem α}
    {decodeToo : δ → Except Problem β} {set : α → σ → σ} {setToo : β → σ → σ}
    (puts : f.put = fun d x => (decode d).map (set · x))
    (putsToo : g.put = fun d x => (decodeToo d).map (setToo · x))
    (apart : ∀ a b x, setToo b (set a x) = set a (setToo b x)) : f.Commutes g := by
  intro d e x y
  rw [puts, putsToo]
  simp only [bind_eq_ok_iff, map_eq_ok_iff]
  constructor
  · rintro ⟨_, ⟨a, decoded, rfl⟩, b, decodedToo, rfl⟩
    exact ⟨_, ⟨b, decodedToo, rfl⟩, a, decoded, (apart a b x).symm⟩
  · rintro ⟨_, ⟨b, decodedToo, rfl⟩, a, decoded, rfl⟩
    exact ⟨_, ⟨a, decoded, rfl⟩, b, decodedToo, apart a b x⟩

namespace Record

/-- Puts into each field what there is for it. -/
def fill (there : String → Option δ) : List (Field δ σ) → σ → Except Problem σ
  | [], x => .ok x
  | field :: fields, x =>
    match there field.name with
    | none => fill there fields x
    | some d => do
      let x ← field.put d x
      fill there fields x

theorem fill_of_absent {there : String → Option δ} {field : Field δ σ}
    (absent : there field.name = none) (fields : List (Field δ σ)) (x : σ) :
    fill there (field :: fields) x = fill there fields x := by
  rw [fill, absent]

theorem fill_of_present {there : String → Option δ} {field : Field δ σ} {d : δ}
    (present : there field.name = some d) (fields : List (Field δ σ)) (x : σ) :
    fill there (field :: fields) x = (field.put d x >>= fill there fields) := by
  rw [fill, present]

theorem fill_congr {there thereToo : String → Option δ} {fields : List (Field δ σ)}
    (same : ∀ field ∈ fields, there field.name = thereToo field.name) (x : σ) :
    fill there fields x = fill thereToo fields x := by
  induction fields generalizing x with
  | nil => rfl
  | cons field fields ih =>
    rw [List.forall_mem_cons] at same
    cases present : there field.name with
    | none => rw [fill_of_absent present, fill_of_absent (same.1 ▸ present), ih same.2]
    | some d =>
      rw [fill_of_present present, fill_of_present (same.1 ▸ present), funext (ih same.2)]

/-- Of independent fields any can be put first. -/
theorem fill_first {there thereToo : String → Option δ} {fields : List (Field δ σ)}
    (independent : Field.Independent fields) {field : Field δ σ} (among : field ∈ fields) {d : δ}
    (absent : there field.name = none) (present : thereToo field.name = some d)
    (others : ∀ name, name ≠ field.name → thereToo name = there name) {x y : σ} :
    fill thereToo fields x = .ok y ↔ (field.put d x >>= fill there fields) = .ok y := by
  induction fields generalizing x y with
  | nil => cases among
  | cons head fields ih =>
    obtain ⟨names, commute⟩ := independent
    rw [List.map_cons, List.nodup_cons] at names
    rw [List.pairwise_cons] at commute
    rcases List.mem_cons.mp among with rfl | later
    · have same : ∀ other ∈ fields, thereToo other.name = there other.name := by
        intro other amongRest
        refine others _ fun same => names.1 ?_
        rw [← same]
        exact List.mem_map_of_mem amongRest
      rw [fill_of_present present, funext (fill_congr same), funext (fill_of_absent absent fields)]
    · have differ : head.name ≠ field.name := by
        intro same
        rw [same] at names
        exact names.1 (List.mem_map_of_mem later)
      have rest := fun {x y} => @ih ⟨names.2, commute.2⟩ later x y
      cases present : there head.name with
      | none =>
        rw [fill_of_absent ((others _ differ).trans present), rest,
          funext (fill_of_absent present fields)]
      | some e =>
        -- the head goes first on the left, and second on the right
        have swapped := fun z => commute.1 field later e d x z
        rw [fill_of_present ((others _ differ).trans present),
          funext (fill_of_present present fields)]
        simp only [bind_eq_ok_iff, rest] at swapped ⊢
        constructor
        · rintro ⟨x₁, puts, x₂, putsToo, filled⟩
          obtain ⟨x₃, puts', putsToo'⟩ := (swapped x₂).mp ⟨x₁, puts, putsToo⟩
          exact ⟨x₃, puts', x₂, putsToo', filled⟩
        · rintro ⟨x₃, puts', x₂, putsToo', filled⟩
          obtain ⟨x₁, puts, putsToo⟩ := (swapped x₂).mpr ⟨x₃, puts', putsToo'⟩
          exact ⟨x₁, puts, x₂, putsToo, filled⟩

theorem fill_of_nothing {there : String → Option δ} (nothing : ∀ name, there name = none)
    (fields : List (Field δ σ)) (x : σ) : fill there fields x = .ok x := by
  induction fields with
  | nil => rfl
  | cons field fields ih => rw [fill_of_absent (nothing _), ih]

/-- The names of fields. -/
def names (fields : List (Field δ σ)) : List String := fields.map Field.name

theorem find?_eq_none_iff {fields : List (Field δ σ)} {name : String} :
    fields.find? (·.name = name) = none ↔ name ∉ names fields := by
  unfold names
  simp only [List.find?_eq_none, decide_eq_true_eq, List.mem_map, not_exists, not_and]

theorem requireSeen_eq_ok_iff {fields : List (Field δ σ)} {seen : List String} {u : Unit} :
    requireSeen fields seen = .ok u ↔
      ∀ field ∈ fields, field.required = true → field.name ∈ seen := by
  unfold requireSeen
  cases missing : fields.find? fun field => field.required && !(field.name ∈ seen) with
  | none =>
    refine ⟨fun _ => ?_, fun _ => rfl⟩
    simpa using missing
  | some field =>
    refine ⟨nofun, fun there => ?_⟩
    have lacks := List.find?_some missing
    rw [Bool.and_eq_true, Bool.not_eq_true', decide_eq_false_iff_not] at lacks
    exact absurd (there field (List.mem_of_find?_eq_some missing) lacks.1) lacks.2

variable [Source δ]

/-- The members of known names do not repeat, the others can be passed over. -/
structure Passes (known : List String) (named : List (String × δ)) : Prop where
  unrepeated : (knownNames known named).Nodup
  ignored : ∀ member ∈ named, member.1 ∉ known → Source.ignore member.2 = .ok ()

/-- What a member means to the fields: nothing if its name is unknown, otherwise it goes into the
field of the name, which must not have been seen. -/
theorem putMembers_cons {fields : List (Field δ σ)} (name : String) (d : δ)
    (rest : List (Except Problem String × δ)) (seen : List String) (x : σ) :
    name ∉ names fields ∧ putMembers fields ((.ok name, d) :: rest) seen x =
        (Source.ignore d >>= fun _ => putMembers fields rest seen x) ∨
      ∃ field ∈ fields, field.name = name ∧
        putMembers fields ((.ok name, d) :: rest) seen x =
          if name ∈ seen then .error (.data (.repeatedMember name))
          else field.put d x >>= putMembers fields rest (name :: seen) := by
  cases known : fields.find? (·.name = name) with
  | none =>
    refine Or.inl ⟨find?_eq_none_iff.mp known, ?_⟩
    simp only [putMembers, bind, Except.bind, known]
  | some field =>
    have same := List.find?_some known
    refine Or.inr ⟨field, List.mem_of_find?_eq_some known, of_decide_eq_true same, ?_⟩
    simp only [putMembers, bind, Except.bind, known]

theorem putMembers_append {fields : List (Field δ σ)}
    (first second : List (Except Problem String × δ)) (seen : List String) (x : σ) :
    putMembers fields (first ++ second) seen x =
      (putMembers fields first seen x >>= fun put => putMembers fields second put.1 put.2) := by
  induction first generalizing seen x with
  | nil => rfl
  | cons head rest ih =>
    obtain ⟨key, d⟩ := head
    rw [List.cons_append, putMembers, putMembers]
    simp only [bind_assoc]
    congr
    funext name
    cases fields.find? (·.name = name) with
    | none => simp only [ih, bind_assoc]
    | some field =>
      dsimp only
      split
      · rfl
      · simp only [ih, bind_assoc]

theorem passes_cons_of_mem {known : List String} {name : String} (isKnown : name ∈ known) {d : δ}
    {rest : List (String × δ)} :
    Passes known ((name, d) :: rest) ↔ name ∉ knownNames known rest ∧ Passes known rest := by
  constructor
  · rintro ⟨unrepeated, ignored⟩
    rw [knownNames_cons_of_mem isKnown, List.nodup_cons] at unrepeated
    exact ⟨unrepeated.1, unrepeated.2, (List.forall_mem_cons.mp ignored).2⟩
  · rintro ⟨fresh, unrepeated, ignored⟩
    refine ⟨?_, List.forall_mem_cons.mpr ⟨fun unknown => absurd isKnown unknown, ignored⟩⟩
    rw [knownNames_cons_of_mem isKnown, List.nodup_cons]
    exact ⟨fresh, unrepeated⟩

theorem passes_cons_of_not_mem {known : List String} {name : String} (unknown : name ∉ known)
    {d : δ} {rest : List (String × δ)} :
    Passes known ((name, d) :: rest) ↔ Source.ignore d = .ok () ∧ Passes known rest := by
  constructor
  · rintro ⟨unrepeated, ignored⟩
    rw [knownNames_cons_of_not_mem unknown] at unrepeated
    rw [List.forall_mem_cons] at ignored
    exact ⟨ignored.1 unknown, unrepeated, ignored.2⟩
  · rintro ⟨ignores, unrepeated, ignored⟩
    refine ⟨?_, List.forall_mem_cons.mpr ⟨fun _ => ignores, ignored⟩⟩
    rwa [knownNames_cons_of_not_mem unknown]

/-- Members of these names turn one record into another and one list of seen names into another. -/
structure Puts (fields : List (Field δ σ)) (named : List (String × δ)) (seen : List String) (x : σ)
    (seenToo : List String) (y : σ) : Prop where
  passes : Passes (names fields) named
  unseen : ∀ name ∈ knownNames (names fields) named, name ∉ seen
  grown : seenToo = (knownNames (names fields) named).reverse ++ seen
  filled : fill (found named) fields x = .ok y

namespace Puts

variable {fields : List (Field δ σ)} {named : List (String × δ)} {seen seenToo : List String}
  {x y : σ} {d : δ}

theorem nil_iff : Puts fields [] seen x seenToo y ↔ seenToo = seen ∧ y = x := by
  have filled : fill (found ([] : List (String × δ))) fields x = .ok x :=
    fill_of_nothing (fun _ => found_nil _) fields x
  constructor
  · intro puts
    exact ⟨puts.grown, Except.ok.inj (puts.filled.symm.trans filled)⟩
  · rintro ⟨rfl, rfl⟩
    exact ⟨⟨List.nodup_nil, by simp⟩, by simp [knownNames], rfl, filled⟩

theorem cons_of_not_mem {name : String} (unknown : name ∉ names fields) :
    Puts fields ((name, d) :: named) seen x seenToo y ↔
      Source.ignore d = .ok () ∧ Puts fields named seen x seenToo y := by
  have skips : fill (found ((name, d) :: named)) fields x = fill (found named) fields x := by
    refine fill_congr (fun field among => found_cons_of_ne ?_ d named) x
    rintro rfl
    exact unknown (List.mem_map_of_mem among)
  have same := knownNames_cons_of_not_mem unknown d named
  constructor
  · rintro ⟨passes, unseen, grown, filled⟩
    obtain ⟨ignores, passes⟩ := (passes_cons_of_not_mem unknown).mp passes
    rw [same] at unseen grown
    exact ⟨ignores, passes, unseen, grown, skips ▸ filled⟩
  · rintro ⟨ignores, passes, unseen, grown, filled⟩
    refine ⟨(passes_cons_of_not_mem unknown).mpr ⟨ignores, passes⟩, ?_, ?_, skips ▸ filled⟩
    · rwa [same]
    · rwa [same]

/-- A member of a known name is put first, and is seen by those after it. -/
theorem cons_of_mem (independent : Field.Independent fields) {field : Field δ σ}
    (among : field ∈ fields) :
    Puts fields ((field.name, d) :: named) seen x seenToo y ↔
      field.name ∉ seen ∧
        ∃ x₁, field.put d x = .ok x₁ ∧ Puts fields named (field.name :: seen) x₁ seenToo y := by
  have known : field.name ∈ names fields := List.mem_map_of_mem among
  have first : field.name ∉ knownNames (names fields) named →
      (fill (found ((field.name, d) :: named)) fields x = .ok y ↔
        (field.put d x >>= fill (found named) fields) = .ok y) := by
    intro fresh
    refine fill_first independent among ?_ (found_cons_of_eq rfl d named) ?_
    · rw [found_eq_none_iff]
      exact fun there => fresh (mem_knownNames.mpr ⟨there, known⟩)
    · exact fun other differ => found_cons_of_ne (Ne.symm differ) d named
  have more := knownNames_cons_of_mem known d named
  constructor
  · rintro ⟨passes, unseen, grown, filled⟩
    obtain ⟨fresh, passes⟩ := (passes_cons_of_mem known).mp passes
    rw [more, List.forall_mem_cons] at unseen
    obtain ⟨x₁, put, filled⟩ := bind_eq_ok_iff.mp ((first fresh).mp filled)
    refine ⟨unseen.1, x₁, put, passes, ?_, by simpa [more] using grown, filled⟩
    intro name there
    rw [List.mem_cons, not_or]
    exact ⟨fun same => fresh (same ▸ there), unseen.2 name there⟩
  · rintro ⟨unseen, x₁, put, passes, later, grown, filled⟩
    have fresh : field.name ∉ knownNames (names fields) named :=
      fun there => later _ there (List.mem_cons_self ..)
    refine ⟨(passes_cons_of_mem known).mpr ⟨fresh, passes⟩, ?_, by simp [more, grown],
      (first fresh).mpr (bind_eq_ok_iff.mpr ⟨x₁, put, filled⟩)⟩
    rw [more]
    exact List.forall_mem_cons.mpr ⟨unseen, fun name there already =>
      later name there (List.mem_cons_of_mem _ already)⟩

end Puts

theorem putMembers_eq_ok_iff {fields : List (Field δ σ)} (independent : Field.Independent fields)
    {members : List (Except Problem String × δ)} {seen seenToo : List String} {x y : σ} :
    putMembers fields members seen x = .ok (seenToo, y) ↔
      ∃ named, members = read named ∧ Puts fields named seen x seenToo y := by
  induction members generalizing seen x with
  | nil =>
    constructor
    · intro put
      cases put
      exact ⟨[], rfl, Puts.nil_iff.mpr ⟨rfl, rfl⟩⟩
    · rintro ⟨named, empty, puts⟩
      obtain rfl : named = [] := List.map_eq_nil_iff.mp empty.symm
      obtain ⟨rfl, rfl⟩ := Puts.nil_iff.mp puts
      rfl
  | cons head rest ih =>
    obtain ⟨key, d⟩ := head
    rw [exists_read_cons]
    cases key with
    | error problem =>
      refine ⟨nofun, ?_⟩
      rintro ⟨_, _, same, -⟩
      cases same
    | ok name =>
      rcases @putMembers_cons _ _ _ fields name d rest seen x with
        ⟨unknown, put⟩ | ⟨field, among, rfl, put⟩
      · rw [put, bind_eq_ok_iff]
        constructor
        · rintro ⟨_, ignores, rests⟩
          obtain ⟨named, rfl, puts⟩ := ih.mp rests
          exact ⟨name, named, rfl, rfl, (Puts.cons_of_not_mem unknown).mpr ⟨ignores, puts⟩⟩
        · rintro ⟨_, named, same, rfl, puts⟩
          cases same
          obtain ⟨ignores, puts⟩ := (Puts.cons_of_not_mem unknown).mp puts
          exact ⟨(), ignores, ih.mpr ⟨named, rfl, puts⟩⟩
      · rw [put]
        constructor
        · intro outcome
          split at outcome
          · cases outcome
          · next unseen =>
            obtain ⟨x₁, first, rests⟩ := bind_eq_ok_iff.mp outcome
            obtain ⟨named, rfl, puts⟩ := ih.mp rests
            exact ⟨field.name, named, rfl, rfl,
              (Puts.cons_of_mem independent among).mpr ⟨unseen, x₁, first, puts⟩⟩
        · rintro ⟨_, named, same, rfl, puts⟩
          cases same
          obtain ⟨unseen, x₁, first, puts⟩ := (Puts.cons_of_mem independent among).mp puts
          rw [if_neg unseen]
          exact bind_eq_ok_iff.mpr ⟨x₁, first, ih.mpr ⟨named, rfl, puts⟩⟩

/-- A record comes of members if those of known names do not repeat, those of other names can be
passed over, and the required fields are there; and it is what the fields found by their names
make of it. -/
theorem ofMembers_eq_ok_iff {r : Record δ σ} (independent : Field.Independent r.fields)
    {members : List (Except Problem String × δ)} {fault : Option Fault} {y : σ} :
    r.ofMembers members fault = .ok y ↔
      fault = none ∧ ∃ named, members = read named ∧ Passes (names r.fields) named ∧
        (∀ field ∈ r.fields, field.required = true → found named field.name ≠ none) ∧
        fill (found named) r.fields r.start = .ok y := by
  have seen : ∀ {named : List (String × δ)} {field : Field δ σ}, field ∈ r.fields →
      (field.name ∈ (knownNames (names r.fields) named).reverse ++ [] ↔
        found named field.name ≠ none) := by
    intro named field among
    have known : field.name ∈ names r.fields := List.mem_map_of_mem among
    rw [List.append_nil, List.mem_reverse, mem_knownNames, ne_eq, found_eq_none_iff, not_not]
    exact and_iff_left known
  unfold ofMembers
  simp only [bind_eq_ok_iff, close_eq_ok_iff, requireSeen_eq_ok_iff, Prod.exists,
    putMembers_eq_ok_iff independent, pure, Except.pure, Except.ok.injEq]
  constructor
  · rintro ⟨_, _, ⟨named, read, passes, -, rfl, filled⟩, _, closed, _, required, rfl⟩
    exact ⟨closed, named, read, passes,
      fun field among needed => (seen among).mp (required field among needed), filled⟩
  · rintro ⟨closed, named, read, passes, required, filled⟩
    exact ⟨_, y, ⟨named, read, passes, fun _ _ => List.not_mem_nil, rfl, filled⟩, (), closed, (),
      fun field among needed => (seen among).mpr (required field among needed), rfl⟩

/-- A member that cannot be put into its field is what is wrong with the members, as long as those
before it can be put. -/
theorem ofMembers_eq_error {r : Record δ σ} {field : Field δ σ}
    (known : r.fields.find? (·.name = field.name) = some field)
    {before after : List (Except Problem String × δ)} {seen : List String} {x : σ}
    (puts : putMembers r.fields before [] r.start = .ok (seen, x)) (unseen : field.name ∉ seen)
    {d : δ} {problem : Problem} (fails : field.put d x = .error problem) (fault : Option Fault) :
    r.ofMembers (before ++ (.ok field.name, d) :: after) fault = .error problem := by
  rw [ofMembers, putMembers_append, puts]
  simp only [bind, Except.bind, putMembers, known, unseen, fails, if_false]

/-- Members can be rearranged, and members of unknown names that can be passed over come and go. -/
theorem ofMembers_extended {r : Record δ σ} (independent : Field.Independent r.fields)
    {own extras members : List (String × δ)} (same : members.Perm (own ++ extras))
    (unknown : ∀ member ∈ extras, member.1 ∉ names r.fields)
    (ignored : ∀ member ∈ extras, Source.ignore member.2 = .ok ()) {y : σ}
    (decodes : r.ofMembers (read own) none = .ok y) : r.ofMembers (read members) none = .ok y := by
  obtain ⟨-, named, sameOwn, passes, required, filled⟩ :=
    (ofMembers_eq_ok_iff independent).mp decodes
  obtain rfl := read_injective sameOwn
  have noneKnown : knownNames (names r.fields) extras = [] := by
    rw [knownNames, List.filter_eq_nil_iff]
    intro name among isKnown
    obtain ⟨member, amongExtras, rfl⟩ := List.mem_map.mp among
    exact unknown member amongExtras (of_decide_eq_true isKnown)
  have unrepeatedAll : (knownNames (names r.fields) (own ++ extras)).Nodup := by
    have split : knownNames (names r.fields) (own ++ extras) =
        knownNames (names r.fields) own ++ knownNames (names r.fields) extras := by
      simp [knownNames]
    rw [split, noneKnown, List.append_nil]
    exact passes.unrepeated
  have unrepeated := (knownNames_perm same _).nodup_iff.mpr unrepeatedAll
  have foundSame : ∀ name ∈ names r.fields, found members name = found own name := by
    intro name known
    have absent : found extras name = none := by
      rw [found_eq_none_iff]
      intro among
      obtain ⟨member, amongExtras, rfl⟩ := List.mem_map.mp among
      exact unknown member amongExtras known
    rw [found_perm same unrepeated known, found_append, absent, Option.or_none]
  refine (ofMembers_eq_ok_iff independent).mpr ⟨rfl, members, rfl, ⟨unrepeated, ?_⟩, ?_, ?_⟩
  · intro member among unknownName
    rcases List.mem_append.mp (same.mem_iff.mp among) with amongOwn | amongExtras
    · exact passes.ignored member amongOwn unknownName
    · exact ignored member amongExtras
  · intro field among needed
    rw [foundSame _ (List.mem_map_of_mem among)]
    exact required field among needed
  · rw [fill_congr fun field among => foundSame _ (List.mem_map_of_mem among)]
    exact filled

end Record

/-! ## The records of contents -/

namespace Record

theorem independent_empty (title : String) : Field.Independent (empty title).fields :=
  ⟨List.nodup_nil, .nil⟩

theorem independent_one (title : String) (start : α) (name : String)
    (decode : Kept → Except Problem α) : Field.Independent (one title start name decode).fields :=
  ⟨List.nodup_singleton _, List.pairwise_singleton ..⟩

variable {first second : String}

theorem nodup_pair (apart : first ≠ second) : [first, second].Nodup := by simpa using apart

theorem independent_two (title : String) (start : α × β) (apart : first ≠ second)
    (decodeFirst : Kept → Except Problem α) (decodeSecond : Kept → Except Problem β) :
    Field.Independent (two title start first decodeFirst second decodeSecond).fields :=
  ⟨nodup_pair apart, List.pairwise_pair.mpr (Field.commutes_of_set rfl rfl fun _ _ _ => rfl)⟩

theorem independent_flags (title : String) (apart : first ≠ second) :
    Field.Independent (flags title first second).fields :=
  ⟨nodup_pair apart, List.pairwise_pair.mpr (Field.commutes_of_set rfl rfl fun _ _ _ => rfl)⟩

end Record

end InCallProximity.Json
